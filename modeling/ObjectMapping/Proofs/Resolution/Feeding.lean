/-
This file proves when the only constructor of a destination is fed from the source: every parameter is asked for
once, from the first member of its name, and nothing further is tried.
-/

import ObjectMapping.Proofs.Resolution.Rules
import ObjectMapping.Proofs.Schema.Flattening

namespace ObjectMapping

namespace MappingTask

/-- A member of the source has the name of the parameter, ignoring case, and its value can be converted for it. -/
structure CanFeed (task : MappingTask) (member : Member) (parameter : Parameter) : Prop where
  present : member ∈ task.sourceStruct.members
  named : Text.lower member.name = Text.lower parameter.name
  readable : member.readable = true
  compatible : (task.relation member.type parameter.type).isCompatible = true

/-- What it takes to feed the only constructor of the destination. -/
structure FeedsOnly (task : MappingTask) (constructor : Constructor) (resolution : Resolution) : Prop where
  /-- Of the members with the name of a parameter the first can feed it. -/
  first : resolution.plan.state = .autoSingleParameterizedMapped ↔
    ∀ parameter ∈ constructor.parameters, ∃ member, task.CanFeed member parameter ∧
      ∀ other ∈ task.sourceStruct.members, Text.lower other.name = Text.lower parameter.name →
        member.rank ≤ other.rank
  /-- Any member can feed a parameter where names tell members apart although case is ignored. -/
  any : (task.sourceStruct.members.map fun member => Text.lower member.name).Nodup →
    (resolution.plan.state = .autoSingleParameterizedMapped ↔
      ∀ parameter ∈ constructor.parameters, ∃ member, task.CanFeed member parameter)

variable {task : MappingTask}

/-- A parameter is fed if the first member of its name is readable and can be converted. -/
theorem feed?_isSome (parameter : Parameter) : (task.feed? parameter).isSome = true ↔
    ∃ member, task.sourceStruct.memberIgnoringCase? parameter.name = some member ∧ member.readable = true ∧
      (task.relation member.type parameter.type).isCompatible = true := by
  unfold feed?
  cases task.sourceStruct.memberIgnoringCase? parameter.name with
  | none => simp
  | some member =>
      cases readable : member.readable <;>
        cases compatible : (task.relation member.type parameter.type).isCompatible <;>
          simp [Option.filter_some, readable, compatible]

/-- Without a word from the user the only constructor is called with arguments if each of its parameters is fed. -/
theorem ConstructorRule.fed {registry : EnumRegistry} {decision : EnumRegistry × ConstructorResult}
    (rule : task.ConstructorRule registry decision) {constructor : Constructor}
    (unasked : task.request.directives.constructor = none)
    (only : task.destinationStruct.constructors = [constructor]) (takes : constructor.parameters ≠ []) :
    decision.2.state = .autoSingleParameterizedMapped ↔
      ∀ parameter ∈ constructor.parameters, (task.feed? parameter).isSome = true := by
  rw [← mapM_isSome]
  cases rule with
  | noConstructor _ nothing =>
      rw [nothing] at only
      cases only
  | onlyParameterless other _ otherOnly bare =>
      rw [otherOnly] at only
      cases only
      exact absurd (List.isEmpty_iff.mp bare) takes
  | onlyFed other found _ otherOnly _ fed =>
      rw [otherOnly] at only
      cases only
      simp [ConstructorResult.call, fed]
  | onlyUnfed other _ otherOnly _ unfed =>
      rw [otherOnly] at only
      cases only
      simp [ConstructorResult.refused, unfed]
  | several first second others _ choices =>
      rw [choices] at only
      cases only
  | askedEmpty _ _ asked | askedEmptyMissing _ asked | askedArguments _ _ _ asked
  | askedArgumentsMissing _ _ asked =>
      rw [unasked] at asked
      cases asked

/-- The first member of a name can feed a parameter if and only if the parameter is fed. -/
theorem feed?_canFeed {id : TypeId} (laidOut : task.sourceStruct.IsLaidOut id) (parameter : Parameter) :
    (task.feed? parameter).isSome = true ↔ ∃ member, task.CanFeed member parameter ∧
      ∀ other ∈ task.sourceStruct.members, Text.lower other.name = Text.lower parameter.name →
        member.rank ≤ other.rank := by
  simp only [feed?_isSome, laidOut.memberIgnoringCase?_iff]
  constructor
  · rintro ⟨member, ⟨present, named, first⟩, readable, compatible⟩
    exact ⟨member, ⟨present, named, readable, compatible⟩, first⟩
  · rintro ⟨member, ⟨present, named, readable, compatible⟩, first⟩
    exact ⟨member, ⟨present, named, first⟩, readable, compatible⟩

/-- Where names tell members apart the member of a name is the first. -/
theorem CanFeed.first (distinct : (task.sourceStruct.members.map fun member => Text.lower member.name).Nodup)
    {member : Member} {parameter : Parameter} (canFeed : task.CanFeed member parameter) :
    ∀ other ∈ task.sourceStruct.members, Text.lower other.name = Text.lower parameter.name →
      member.rank ≤ other.rank := by
  intro other present named
  have same := List.inj_on_of_nodup_map distinct canFeed.present present (canFeed.named.trans named.symm)
  exact Nat.le_of_eq (congrArg (·.rank) same)

theorem feedsOnly {id : TypeId} (laidOut : task.sourceStruct.IsLaidOut id) {constructor : Constructor}
    (unasked : task.request.directives.constructor = none)
    (only : task.destinationStruct.constructors = [constructor]) (takes : constructor.parameters ≠ []) :
    task.FeedsOnly constructor task.resolve := by
  have fed := (task.resolveConstructor_rule task.pairedRegistry).fed unasked only takes
  simp only [feed?_canFeed laidOut] at fed
  refine ⟨fed, ?_⟩
  intro distinct
  refine fed.trans (forall₂_congr fun parameter _ => exists_congr fun member => ?_)
  exact and_iff_left_of_imp fun canFeed => canFeed.first distinct

end MappingTask

/-- The only constructor is called if and only if the first members of the names of its parameters can feed them. -/
theorem Request.resolve_feeds (draft : SchemaDraft) (schema : Schema) (request : Request) (resolution : Resolution)
    (built : draft.build = .ok schema) (resolved : request.resolve schema = .ok resolution)
    (unasked : request.directives.constructor = none) :
    ∃ task, request.toTask schema = .ok task ∧ ∀ constructor,
      task.destinationStruct.constructors = [constructor] → constructor.parameters ≠ [] →
        task.FeedsOnly constructor resolution := by
  obtain ⟨task, accepted, rfl⟩ := (request.resolve_ok schema resolution).mp resolved
  have isFor := request.toTask_ok schema task accepted
  obtain ⟨id, _, _, found, isStruct⟩ := isFor.source
  have laidOut := draft.build_struct schema built id task.source task.sourceStruct found isStruct
  refine ⟨task, accepted, ?_⟩
  intro constructor only takes
  rw [← isFor.sameRequest] at unasked
  exact task.feedsOnly laidOut unasked only takes

/-- A summary is made from the identifier of its order. -/
theorem orderRequest_feeds :
    SchemaDraft.orderDraft.build = .ok SchemaDraft.orderSchema ∧ orderRequest.directives.constructor = none ∧
      ∃ resolution, orderRequest.resolve SchemaDraft.orderSchema = .ok resolution ∧
        resolution.plan.state = .autoSingleParameterizedMapped ∧
        ∃ task, orderRequest.toTask SchemaDraft.orderSchema = .ok task ∧ ∀ constructor,
          task.destinationStruct.constructors = [constructor] → constructor.parameters ≠ [] →
            task.FeedsOnly constructor resolution :=
  ⟨SchemaDraft.orderDraft_build, rfl, _, rfl, rfl, Request.resolve_feeds SchemaDraft.orderDraft
    SchemaDraft.orderSchema orderRequest _ SchemaDraft.orderDraft_build rfl rfl⟩

/-- Rows have two members whose names differ in case only, and the first of them cannot be read. -/
def SchemaDraft.rowDraft : SchemaDraft where
  slots :=
    [⟨"Row", some (.struct ⟨none,
        [⟨"ID", .scalar .i64, .field, false, true, false, false⟩, .accessible "id" (.scalar .i64) .field],
        [.literal]⟩)⟩,
      ⟨"Entry", some (.struct ⟨none, [.accessible "id" (.scalar .i64) .field],
        [.function "new" [⟨"id", .scalar .i64⟩]]⟩)⟩]
  misplaced := []

/-- The schema of `rowDraft`. -/
def SchemaDraft.rowSchema : Schema where
  types :=
    [⟨⟨0⟩, "Row", .struct ⟨none, layOut ⟨0⟩
        [⟨"ID", .scalar .i64, .field, false, true, false, false⟩, .accessible "id" (.scalar .i64) .field] [],
        [.literal]⟩⟩,
      ⟨⟨1⟩, "Entry", .struct ⟨none, layOut ⟨1⟩ [.accessible "id" (.scalar .i64) .field] [],
        [.function "new" [⟨"id", .scalar .i64⟩]]⟩⟩]

/-- Maps rows to entries. -/
def rowRequest : Request where
  mapper := "RowMapper"
  method := ⟨"to_entry", [⟨"row", .named ⟨0⟩⟩], .named ⟨1⟩, ⟨3, 4⟩⟩
  directives := .none
  delegates := []

/-- A member that could feed a parameter is not found behind one of the same name that cannot. -/
theorem Request.resolve_feedsNotAny :
    ¬∀ (draft : SchemaDraft) (schema : Schema) (request : Request) (resolution : Resolution) (task : MappingTask)
      (constructor : Constructor), draft.build = .ok schema → request.resolve schema = .ok resolution →
      request.directives.constructor = none → request.toTask schema = .ok task →
      task.destinationStruct.constructors = [constructor] → constructor.parameters ≠ [] →
      (resolution.plan.state = .autoSingleParameterizedMapped ↔
        ∀ parameter ∈ constructor.parameters, ∃ member, task.CanFeed member parameter) := by
  intro anyMember
  have same := anyMember SchemaDraft.rowDraft SchemaDraft.rowSchema rowRequest _ _ _ (by decide +kernel) rfl rfl rfl
    rfl nofun
  have fed := same.mpr fun parameter isOne => by
    rw [List.mem_singleton.mp isOne]
    exact ⟨_, List.mem_cons_of_mem _ List.mem_cons_self, rfl, rfl, rfl⟩
  cases fed

end ObjectMapping
