/-
This file proves how the collections of a plan come about: what kind of collection they make from what, and
which names their elements get next to the parameters of the mapping method.
-/

import ObjectMapping.Proofs.Expr
import ObjectMapping.Proofs.Resolution.Values

namespace ObjectMapping

namespace Expr

/-- The expression that a collection is read from, unless the user wrote it. -/
def source? : Expr → Option Expr
  | .collect source _ _ _ => Option.some source
  | _ => none

/-- The name that a collection binds its elements to. -/
def binder? : Expr → Option String
  | .collect _ binder _ _ | .collectVerbatim _ binder _ _ => Option.some binder
  | _ => none

/-- The kind of collection that is made. -/
def target? : Expr → Option CollectionKind
  | .collect _ _ _ target | .collectVerbatim _ _ _ target => Option.some target
  | _ => none

/-- The type of the elements that are collected, where what they are read from is known to be a collection. -/
def elementType? (expr : Expr) : Option TypeRef := (expr.source?.bind (·.readType?)).bind (·.element?)

/-- An expression makes a collection if and only if it binds elements. -/
theorem target?_isSome (expr : Expr) : expr.target?.isSome = expr.binder?.isSome := by
  cases expr <;> rfl

/-- Nothing is collected in the expression. -/
def IsPlain (expr : Expr) : Prop := ∀ part ∈ expr.parts, part.binder? = none

end Expr

namespace MappingTask

variable {task : MappingTask}

theorem read_isPlain (member : Member) : (task.read member).IsPlain := List.forall_mem_singleton.mpr rfl

theorem conversion_isPlain (conversion : Conversion) {value : Expr} (plain : value.IsPlain) :
    (conversion.apply value).IsPlain := by
  cases conversion with
  | widen | wrap => exact List.forall_mem_cons.mpr ⟨rfl, plain⟩
  | widenAndWrap => exact List.forall_mem_cons.mpr ⟨rfl, List.forall_mem_cons.mpr ⟨rfl, plain⟩⟩

theorem delegateCall_isPlain (delegation : Delegation) {value : Expr} (plain : value.IsPlain) :
    (task.delegateCall delegation value).IsPlain := by
  refine List.forall_mem_cons.mpr ⟨rfl, fun part inside => ?_⟩
  rw [delegateCall, Expr.inside, Expr.allParts, Expr.allParts_params, List.mem_append] at inside
  obtain ofValue | isParam := inside
  · exact plain part ofValue
  · obtain ⟨name, _, rfl⟩ := List.mem_map.mp isParam
    rfl

/-- Converting a single value collects nothing. -/
theorem SingleRule.isPlain {value made : Expr} {source destination : TypeRef}
    (rule : task.SingleRule value source destination made) (plain : value.IsPlain) : made.IsPlain := by
  cases rule with
  | exact => exact plain
  | enum => exact List.forall_mem_cons.mpr ⟨rfl, plain⟩
  | implicit conversion => exact conversion_isPlain conversion plain
  | delegated delegation => exact delegateCall_isPlain delegation plain

theorem UserRule.inside_isPlain {destination : TypeRef} {value : Expr} (rule : task.UserRule destination value) :
    ∀ part ∈ value.inside, part.binder? = none := by
  cases rule with
  | written => nofun
  | collected _ member =>
      exact List.forall_mem_append.mpr ⟨read_isPlain member, List.forall_mem_singleton.mpr rfl⟩
  | collectedWritten => exact List.forall_mem_singleton.mpr rfl

/-- Collections do not stand in other values of a plan. -/
theorem ValueRule.inside_isPlain {destination : TypeRef} {value : Expr}
    (rule : task.ValueRule destination value) : ∀ part ∈ value.inside, part.binder? = none := by
  cases rule with
  | given _ rule => exact rule.inside_isPlain
  | converted member _ _ _ rule =>
      generalize member.type = source at rule
      cases rule with
      | single _ _ _ rule => exact (List.forall_mem_cons.mp (rule.isPlain (read_isPlain member))).2
      | elements _ _ _ _ _ each =>
          have ofItem := each.isPlain (List.forall_mem_singleton.mpr rfl)
          exact List.forall_mem_append.mpr ⟨read_isPlain member, ofItem⟩

theorem IsConverted.collection {destination : TypeRef} {value : Expr}
    (converted : task.IsConverted destination value) (collects : value.binder?.isSome) (name : String) :
    task.CollectionRule name destination none value := by
  obtain ⟨member, present, readable, rule⟩ := converted
  generalize sourceType : member.type = source at rule
  cases rule with
  | single _ _ _ rule =>
      rw [rule.isPlain (read_isPlain member) _ List.mem_cons_self] at collects
      cases collects
  | elements kind target element made transform =>
      exact .inferred member kind target element made transform present readable sourceType rfl

/-- A directive leaves a member to inference only where there is nothing to infer it from. -/
theorem CollectRule.absent {member : Member} {directive : MapCollection}
    (rule : task.CollectRule member directive none) : task.sourceMember? member.name = none := by
  cases rule with
  | unfound _ absent => exact absent

theorem InferRule.collection {registry : EnumRegistry} {member : Member} {decision : EnumRegistry × Verdict}
    (rule : task.InferRule registry member decision)
    (undecided : (task.request.directives.collection? member.name).bind (task.collectedByUser? member) = none)
    {value : Expr} (assigned : decision.2 = .assigned value) (collects : value.binder?.isSome) :
    task.CollectionRule member.name member.type (task.request.directives.collection? member.name) value := by
  cases rule with
  | missing | mismatched => cases assigned
  | converted source extended _ found made =>
      cases assigned
      have unasked : task.request.directives.collection? member.name = none := by
        cases asked : task.request.directives.collection? member.name with
        | none => rfl
        | some directive =>
            rw [asked, Option.bind_some] at undecided
            rw [(collectedByUser?_rule undecided).absent] at found
            cases found
      obtain ⟨present, readable⟩ := sourceMember?_some found
      rw [unasked]
      exact IsConverted.collection ⟨source, present, readable, convert?_rule made⟩ collects member.name

/-- A collection comes about in one of the ways, by whatever rule it is found. -/
theorem MemberRule.collection {registry : EnumRegistry} {member : Member} {decision : EnumRegistry × Verdict}
    (rule : task.MemberRule registry member decision) {value : Expr} (assigned : decision.2 = .assigned value)
    (collects : value.binder?.isSome) :
    task.CollectionRule member.name member.type (task.request.directives.collection? member.name) value := by
  cases rule with
  | system | notSettable => cases assigned
  | ignored directive =>
      exact absurd assigned (ignoredByUser_ne member directive value)
  | mapped =>
      obtain ⟨text, rfl⟩ := mappedByUser_written assigned
      cases collects
  | collected directive verdict _ _ found decided =>
      obtain rfl : verdict = .assigned value := assigned
      rw [found]
      exact (collectedByUser?_rule decided).collection
  | inferred _ _ undecided => exact (task.infer_rule registry member).collection undecided assigned collects

/-- The collections among the arguments of a constructor are inferred, by whatever rule it is chosen. -/
theorem ConstructorRule.collection {registry : EnumRegistry} {decision : EnumRegistry × ConstructorResult}
    (rule : task.ConstructorRule registry decision) {call : ConstructorPlan}
    (planned : decision.2.plan = some call) : ∀ argument ∈ call.arguments, argument.expr.binder?.isSome →
      ∃ parameter ∈ call.constructor.parameters,
        task.CollectionRule parameter.name parameter.type none argument.expr := by
  intro argument present collects
  obtain ⟨parameter, listed, _, ⟨text, written⟩ | converted⟩ := rule.argument planned argument present
  · rw [written] at collects
    cases collects
  · exact ⟨parameter, listed, converted.collection collects parameter.name⟩

theorem assignments_collection : ∀ assignment ∈ task.resolve.plan.assignments, assignment.expr.binder?.isSome →
    ∃ member ∈ task.destinationStruct.members, member.name = assignment.member ∧
      task.CollectionRule member.name member.type (task.request.directives.collection? member.name)
        assignment.expr := by
  intro assignment present collects
  obtain ⟨result, listed, named, _, assigned⟩ := task.assignments_result present
  refine ⟨result.member, task.memberResults_member listed, named, ?_⟩
  obtain ⟨_, claimed⟩ | ⟨_, before, after, rule⟩ := task.resolveMembers_rules _ _ _ result listed
  · rw [claimed] at assigned
    cases assigned
  · exact rule.collection assigned collects

end MappingTask

/-- The values of a plan, each with the collection directive of the member that it is for, if there is one. -/
def Plan.directedValues (plan : Plan) (directives : Directives) : List (Option MapCollection × Expr) :=
  (plan.constructor.elim [] fun call => call.arguments.map fun argument => (none, argument.expr)) ++
    plan.assignments.map fun assignment => (directives.collection? assignment.member, assignment.expr)

theorem Plan.directedValues_values (plan : Plan) (directives : Directives) :
    (plan.directedValues directives).map (·.2) = plan.values := by
  rw [directedValues, values, List.map_append, List.map_map]
  cases plan.constructor with
  | none => rfl
  | some call =>
      rw [Option.elim_some, Option.elim_some, List.map_map]
      rfl

namespace MappingTask

variable {task : MappingTask}

/-- Every collection of a plan comes about in one of the ways, with the directive of its member. -/
theorem directedValues_collection : ∀ entry ∈ task.resolve.plan.directedValues task.request.directives,
    entry.2.binder?.isSome → ∃ name destination, task.CollectionRule name destination entry.1 entry.2 := by
  intro entry present collects
  obtain ofConstructor | assigned := List.mem_append.mp present
  · cases planned : task.resolve.plan.constructor with
    | none =>
        rw [planned] at ofConstructor
        cases ofConstructor
    | some call =>
        rw [planned] at ofConstructor
        obtain ⟨argument, isArgument, rfl⟩ := List.mem_map.mp ofConstructor
        obtain ⟨parameter, _, rule⟩ :=
          (task.resolveConstructor_rule task.pairedRegistry).collection planned argument isArgument collects
        exact ⟨_, _, rule⟩
  · obtain ⟨assignment, isAssignment, rfl⟩ := List.mem_map.mp assigned
    obtain ⟨member, _, named, rule⟩ := assignments_collection assignment isAssignment collects
    rw [named] at rule
    exact ⟨_, _, rule⟩

end MappingTask

/-- The name that the first parameter of a closure binds. -/
def Transform.firstParam? : Transform → Option String
  | .closure value => value.firstParam?
  | .path _ _ => none

namespace Schema

/-- What an element is called: one of a declared type, that may stand behind an option, after its type. -/
def elementBase (schema : Schema) (element : TypeRef) : String :=
  match element.nonNullable with
  | .named id => (schema.nameOf id).snakeCase
  | _ => "item"

/-- The names that are made for elements, the preferred one first; where their type is not known there is only
that one. -/
def bindersFor (schema : Schema) : Option TypeRef → List String
  | none => ["item"]
  | some element => [schema.elementBase element, schema.elementBase element ++ "_item"]

end Schema

/-- The name is one of those that are made for such elements, the preferred one where that is free, and it is
that of a parameter of the method only where none of them is free. -/
structure Request.NamesElement (request : Request) (schema : Schema) (element : Option TypeRef)
    (name : String) : Prop where
  made : name ∈ schema.bindersFor element
  preferred : ∀ first ∈ (schema.bindersFor element).head?, first ∉ request.paramNames → name = first
  taken : name ∈ request.paramNames ↔ ∀ other ∈ schema.bindersFor element, other ∈ request.paramNames

namespace MappingTask

variable {task : MappingTask}

/-- The suffix is put behind the name of an element where a parameter has that name. -/
theorem elementName_namesElement (element : TypeRef) :
    task.request.NamesElement task.schema (some element) (task.elementName element) := by
  have decided : task.elementName element = if task.params.contains (task.schema.elementBase element) then
      task.schema.elementBase element ++ "_item" else task.schema.elementBase element := rfl
  rw [decided]
  split
  · next taken =>
      have baseTaken : task.schema.elementBase element ∈ task.request.paramNames := List.contains_iff_mem.mp taken
      refine ⟨List.mem_cons_of_mem _ List.mem_cons_self, ?_, ?_⟩
      · rintro _ ⟨⟩ free
        exact absurd baseTaken free
      · simp [Schema.bindersFor, baseTaken]
  · next free =>
      have baseFree : task.schema.elementBase element ∉ task.request.paramNames :=
        fun isParam => free (List.contains_iff_mem.mpr isParam)
      refine ⟨List.mem_cons_self, ?_, ?_⟩
      · rintro _ ⟨⟩ _
        rfl
      · simp [Schema.bindersFor, baseFree]

/-- An element that the user gives no name is given one. -/
theorem binderOf_namesElement {item : Transform} (unnamed : item.firstParam? = none) (element : Option TypeRef) :
    task.request.NamesElement task.schema element (task.binderOf item element) := by
  have isMade : task.binderOf item element = (element.map task.elementName).getD "item" := by
    cases item with
    | path => rfl
    | closure closure =>
        have absent : closure.firstParam? = none := unnamed
        rw [binderOf, absent]
        rfl
  rw [isMade]
  cases element with
  | none =>
      refine ⟨List.mem_singleton.mpr rfl, ?_, List.forall_mem_singleton.symm⟩
      rintro _ ⟨⟩ _
      rfl
  | some element => exact elementName_namesElement element

theorem CollectionRule.namesElement {name : String} {destination : TypeRef} {directive : Option MapCollection}
    {value : Expr} (rule : task.CollectionRule name destination directive value)
    (unnamed : directive.bind (·.item.firstParam?) = none) {binder : String}
    (binds : value.binder? = some binder) :
    task.request.NamesElement task.schema value.elementType? binder := by
  cases rule with
  | inferred source kind target element made transform present readable sourceType =>
      cases binds
      have elementType : (Expr.collect (task.read source) (task.elementName element) transform target).elementType? =
          some element := congrArg (·.element?) sourceType
      rw [elementType]
      exact elementName_namesElement element
  | collected directive source =>
      cases binds
      exact binderOf_namesElement unnamed source.type.element?
  | collectedWritten directive =>
      cases binds
      exact binderOf_namesElement unnamed none

end MappingTask

/-- A name that is made for the elements of a collection is one of those for their type, the preferred one if
that is free, and it is that of a parameter of the mapping method if and only if all of these are. -/
theorem Request.resolve_namesElements (schema : Schema) (request : Request) (resolution : Resolution)
    (resolved : request.resolve schema = .ok resolution) (directive : Option MapCollection) (value : Expr)
    (isValue : (directive, value) ∈ resolution.plan.directedValues request.directives) (part : Expr)
    (inside : part ∈ value.parts) (binder : String) (binds : part.binder? = some binder)
    (unnamed : directive.bind (·.item.firstParam?) = none) :
    request.NamesElement schema part.elementType? binder := by
  obtain ⟨task, accepted, rfl⟩ := (request.resolve_ok schema resolution).mp resolved
  obtain ⟨rfl, rfl, -⟩ := request.toTask_ok schema task accepted
  have isPlanned : value ∈ task.resolve.plan.values := by
    rw [← Plan.directedValues_values _ task.request.directives]
    exact List.mem_map_of_mem isValue
  obtain ⟨_, comesAbout⟩ := task.resolve_values value isPlanned
  obtain rfl | deeper := List.mem_cons.mp inside
  · obtain ⟨_, _, rule⟩ := MappingTask.directedValues_collection _ isValue (Option.isSome_of_eq_some binds)
    exact rule.namesElement unnamed binds
  · rw [comesAbout.inside_isPlain part deeper] at binds
    cases binds

/-- Baskets and their receipts, which hold each line once. -/
def SchemaDraft.basketDraft : SchemaDraft where
  slots :=
    [⟨"Line", some (.struct ⟨none, [], [.literal]⟩)⟩,
      ⟨"Basket", some (.struct ⟨none,
        [.accessible "lines" (.collection .vec (.named ⟨0⟩)) .field, .accessible "count" (.scalar .i64) .field],
        [.literal]⟩)⟩,
      ⟨"Receipt", some (.struct ⟨none,
        [.accessible "lines" (.collection .hashSet (.named ⟨0⟩)) .field, .accessible "count" (.scalar .i64) .field],
        [.literal]⟩)⟩]
  misplaced := []

/-- The schema of `basketDraft`. -/
def SchemaDraft.basketSchema : Schema where
  types :=
    [⟨⟨0⟩, "Line", .struct ⟨none, [], [.literal]⟩⟩,
      ⟨⟨1⟩, "Basket", .struct ⟨none, layOut ⟨1⟩
        [.accessible "lines" (.collection .vec (.named ⟨0⟩)) .field, .accessible "count" (.scalar .i64) .field] [],
        [.literal]⟩⟩,
      ⟨⟨2⟩, "Receipt", .struct ⟨none, layOut ⟨2⟩
        [.accessible "lines" (.collection .hashSet (.named ⟨0⟩)) .field, .accessible "count" (.scalar .i64) .field] [],
        [.literal]⟩⟩]

theorem SchemaDraft.basketDraft_build : basketDraft.build = .ok basketSchema := by
  decide +kernel

/-- Maps baskets to receipts, given a discount of some name. -/
def basketRequest (discount : String) (collections : List MapCollection) : Request where
  mapper := "BasketMapper"
  method := ⟨"to_receipt", [⟨"basket", .named ⟨1⟩⟩, ⟨discount, .foreign "Discount"⟩], .named ⟨2⟩, ⟨3, 4⟩⟩
  directives := { Directives.none with collections }
  delegates := []

/-- The element is called `line_item` where the discount is called `line`. -/
theorem basketRequest_namesElements :
    ∃ resolution, (basketRequest "line" []).resolve SchemaDraft.basketSchema = .ok resolution ∧
      ∃ value, (none, value) ∈ resolution.plan.directedValues (basketRequest "line" []).directives ∧
        value.binder? = some "line_item" ∧
        (basketRequest "line" []).NamesElement SchemaDraft.basketSchema value.elementType? "line_item" := by
  refine ⟨_, rfl, _, List.mem_cons_self, by decide +kernel, Request.resolve_namesElements SchemaDraft.basketSchema
    (basketRequest "line" []) _ rfl none _ List.mem_cons_self _ List.mem_cons_self "line_item" (by decide +kernel) rfl⟩

/-- The discount is captured where it has the only name that is made for the elements of what the user wrote. -/
theorem Request.resolve_capturesParameter :
    ¬∀ (draft : SchemaDraft) (schema : Schema) (request : Request) (resolution : Resolution),
      draft.build = .ok schema → request.resolve schema = .ok resolution →
      ∀ directive value, (directive, value) ∈ resolution.plan.directedValues request.directives →
        directive.bind (·.item.firstParam?) = none →
        ∀ part ∈ value.parts, ∀ binder, part.binder? = some binder → binder ∉ request.paramNames := by
  intro apart
  have shadowed := apart SchemaDraft.basketDraft SchemaDraft.basketSchema
    (basketRequest "item" [⟨"lines", some (.closure ⟨["b"], .expression "b . lines", ⟨8, 8⟩⟩),
      .closure ⟨["_", "offer"], .expression "offer . line ( )", ⟨8, 12⟩⟩, ⟨8, 4⟩⟩]) _
    SchemaDraft.basketDraft_build rfl _ _ List.mem_cons_self (by decide +kernel) _ List.mem_cons_self "item"
    (by decide +kernel)
  exact shadowed (by decide)

namespace MappingTask

/-- What fills a member of the destination. Without a directive both sides are collections; for a directive a
member of any type will do, and its source is the member of the same name or what the user wrote. -/
structure FillsMember (task : MappingTask) (member : Member) (directive : Option MapCollection) (value : Expr)
    (target : CollectionKind) : Prop where
  kind : target = member.type.collectionKind?.getD .vec
  inferred : directive = none → member.type.collectionKind? = some target ∧
    ∃ source ∈ task.sourceStruct.members, source.readable = true ∧ source.type.collectionKind?.isSome ∧
      value.source? = some (task.read source)
  sameName : ∀ asked, directive = some asked → asked.source = none →
    ∃ source, task.sourceMember? member.name = some source ∧ value.source? = some (task.read source)
  written : ∀ asked, directive = some asked → asked.source.isSome → value.source? = none

variable {task : MappingTask}

theorem CollectionRule.fillsMember {member : Member} {directive : Option MapCollection} {value : Expr}
    (rule : task.CollectionRule member.name member.type directive value) {target : CollectionKind}
    (makes : value.target? = some target) : task.FillsMember member directive value target := by
  cases rule with
  | inferred source kind _ element made transform present readable sourceType destinationType =>
      cases makes
      refine ⟨?_, fun _ => ?_, nofun, nofun⟩
      · rw [destinationType]
        rfl
      · rw [destinationType]
        refine ⟨rfl, source, present, readable, ?_, rfl⟩
        rw [sourceType]
        rfl
  | collected directive source transform unwritten found =>
      cases makes
      refine ⟨rfl, nofun, fun _ _ _ => ⟨source, found, rfl⟩, ?_⟩
      rintro _ ⟨⟩ isWritten
      rw [unwritten] at isWritten
      cases isWritten
  | collectedWritten directive written source transform given =>
      cases makes
      refine ⟨rfl, nofun, ?_, fun _ _ _ => rfl⟩
      rintro _ ⟨⟩ unwritten
      cases given.symm.trans unwritten

end MappingTask

/-- A collection that is assigned is of the kind that its member has, or a `Vec` for a member of another type;
only where a directive asks for it is a member filled that is no collection, or from one. -/
theorem Request.resolve_fillsCollections (draft : SchemaDraft) (schema : Schema) (request : Request)
    (resolution : Resolution) (built : draft.build = .ok schema)
    (resolved : request.resolve schema = .ok resolution) :
    ∃ task, request.toTask schema = .ok task ∧ ∀ assignment ∈ resolution.plan.assignments,
      ∀ target, assignment.expr.target? = some target →
        ∃ member, task.destinationStruct.member? assignment.member = some member ∧
          task.FillsMember member (request.directives.collection? member.name) assignment.expr target := by
  obtain ⟨task, id, accepted, laidOut, rfl⟩ := request.resolve_task draft schema resolution built resolved
  obtain ⟨-, rfl, -⟩ := request.toTask_ok schema task accepted
  refine ⟨task, accepted, ?_⟩
  intro assignment present target makes
  have collects : assignment.expr.binder?.isSome := by
    rw [← assignment.expr.target?_isSome, makes]
    rfl
  obtain ⟨member, isMember, named, rule⟩ := MappingTask.assignments_collection assignment present collects
  rw [← named]
  exact ⟨member, laidOut.member? member isMember, rule.fillsMember makes⟩

/-- The lines of a receipt are a set that is made of the lines of the basket. -/
theorem basketRequest_fillsCollections :
    SchemaDraft.basketDraft.build = .ok SchemaDraft.basketSchema ∧
      ∃ resolution, (basketRequest "discount" []).resolve SchemaDraft.basketSchema = .ok resolution ∧
        (∃ assignment ∈ resolution.plan.assignments, assignment.expr.target? = some .hashSet) ∧
        ∃ task, (basketRequest "discount" []).toTask SchemaDraft.basketSchema = .ok task ∧
          ∀ assignment ∈ resolution.plan.assignments, ∀ target, assignment.expr.target? = some target →
            ∃ member, task.destinationStruct.member? assignment.member = some member ∧
              task.FillsMember member none assignment.expr target :=
  ⟨SchemaDraft.basketDraft_build, _, rfl, ⟨_, List.mem_cons_self, rfl⟩, Request.resolve_fillsCollections
    SchemaDraft.basketDraft SchemaDraft.basketSchema (basketRequest "discount" []) _
    SchemaDraft.basketDraft_build rfl⟩

/-- A directive makes a `Vec` for a member that is a number, of another number. -/
theorem Request.resolve_fillsAnyMember :
    ¬∀ (draft : SchemaDraft) (schema : Schema) (request : Request) (resolution : Resolution) (task : MappingTask),
      draft.build = .ok schema → request.resolve schema = .ok resolution → request.toTask schema = .ok task →
      ∀ assignment ∈ resolution.plan.assignments, ∀ target, assignment.expr.target? = some target →
        ∃ member, task.destinationStruct.member? assignment.member = some member ∧
          member.type.collectionKind? = some target := by
  intro ofCollections
  obtain ⟨member, found, isCollection⟩ := ofCollections SchemaDraft.basketDraft SchemaDraft.basketSchema
    (basketRequest "discount" [⟨"count", none, .path "same" ⟨8, 12⟩, ⟨8, 4⟩⟩]) _ _
    SchemaDraft.basketDraft_build rfl rfl _ (.tail _ (.head _)) .vec rfl
  cases found
  cases isCollection

end ObjectMapping
