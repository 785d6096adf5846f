/-
This file proves that every diagnostic of a resolution is an error at the mapping method, at a directive of the
user or at a value expression in one.
-/

import ObjectMapping.Proofs.Resolution.Accounting

namespace ObjectMapping

/-- Where the directive and its value expression stand. -/
def MapMember.locations (directive : MapMember) : List Location :=
  [directive.location, directive.source.location]

def MapCollection.locations (directive : MapCollection) : List Location :=
  directive.location :: directive.source.toList.map (·.location) ++ [directive.item.location]

def ConstructorChoice.locations : ConstructorChoice → List Location
  | .empty location => [location]
  | .arguments values location => location :: values.map (·.location)

/-- Where the directives and the value expressions in them stand. -/
def Directives.locations (directives : Directives) : List Location :=
  directives.mapMembers.flatMap (·.locations) ++ directives.ignores.map (·.location) ++
    directives.collections.flatMap (·.locations) ++ directives.constructor.toList.flatMap (·.locations) ++
    directives.enums.map (·.location)

namespace Directives

variable {directives : Directives} {location : Location}

theorem mem_locations : location ∈ directives.locations ↔
    (∃ directive ∈ directives.mapMembers, location ∈ directive.locations) ∨
      (∃ directive ∈ directives.ignores, directive.location = location) ∨
      (∃ directive ∈ directives.collections, location ∈ directive.locations) ∨
      (∃ choice, directives.constructor = some choice ∧ location ∈ choice.locations) ∨
      ∃ directive ∈ directives.enums, directive.location = location := by
  simp only [locations, List.mem_append, List.mem_flatMap, List.mem_map, Option.mem_toList,
    or_assoc]

theorem locations_ofMapMember {directive : MapMember} (present : directive ∈ directives.mapMembers)
    (within : location ∈ directive.locations) : location ∈ directives.locations :=
  mem_locations.mpr (.inl ⟨directive, present, within⟩)

theorem locations_ofIgnore {directive : IgnoreMember} (present : directive ∈ directives.ignores) :
    directive.location ∈ directives.locations :=
  mem_locations.mpr (.inr (.inl ⟨directive, present, rfl⟩))

theorem locations_ofCollection {directive : MapCollection} (present : directive ∈ directives.collections)
    (within : location ∈ directive.locations) : location ∈ directives.locations :=
  mem_locations.mpr (.inr (.inr (.inl ⟨directive, present, within⟩)))

theorem locations_ofConstructor {choice : ConstructorChoice} (chosen : directives.constructor = some choice)
    (within : location ∈ choice.locations) : location ∈ directives.locations :=
  mem_locations.mpr (.inr (.inr (.inr (.inl ⟨choice, chosen, within⟩))))

theorem locations_ofEnum {directive : MapEnum} (present : directive ∈ directives.enums) :
    directive.location ∈ directives.locations :=
  mem_locations.mpr (.inr (.inr (.inr (.inr ⟨directive, present, rfl⟩))))

end Directives

/-- Where the diagnostics about a request can be located. -/
def Request.locations (request : Request) : List Location :=
  request.method.location :: request.directives.locations

/-- The diagnostic is an error at one of the places. -/
structure Diagnostic.IsErrorWithin (diagnostic : Diagnostic) (places : List Location) : Prop where
  isError : diagnostic.isError = true
  location : diagnostic.location ∈ places

theorem Diagnostic.IsErrorWithin.ofError {location : Location} (finding : Finding) {places : List Location}
    (within : location ∈ places) : (Diagnostic.error location finding).IsErrorWithin places := ⟨rfl, within⟩

theorem Diagnostic.IsErrorWithin.mono {diagnostic : Diagnostic} {some all : List Location}
    (isError : diagnostic.IsErrorWithin some) (within : some ⊆ all) : diagnostic.IsErrorWithin all :=
  ⟨isError.isError, within isError.location⟩

/-- What is reported is an error at one of the places. -/
def Verdict.ReportsWithin (verdict : Verdict) (places : List Location) : Prop :=
  ∀ diagnostic, verdict.diagnostic? = some diagnostic → diagnostic.IsErrorWithin places

namespace Verdict

variable {places : List Location}

theorem diagnosed_reportsWithin {location : Location} (finding : Finding) (within : location ∈ places) :
    (diagnosed (.error location finding)).ReportsWithin places := by
  intro diagnostic reported
  cases reported
  exact .ofError finding within

theorem assigned_reportsWithin (value : Expr) : (assigned value).ReportsWithin places := nofun

theorem ReportsWithin.mono {verdict : Verdict} {all : List Location} (reports : verdict.ReportsWithin places)
    (within : places ⊆ all) : verdict.ReportsWithin all :=
  fun diagnostic reported => (reports diagnostic reported).mono within

end Verdict

namespace MappingTask

section

variable (task : MappingTask)

theorem pairDiagnostic?_isError (pair : MapEnum) (diagnostic : Diagnostic)
    (found : task.pairDiagnostic? pair = some diagnostic) : diagnostic.IsErrorWithin [pair.location] := by
  unfold pairDiagnostic? at found
  split at found
  · split at found
    · cases found
    · cases found
      exact .ofError _ List.mem_cons_self
  · cases found

/-- What is wrong with an argument of the user is reported at the argument. -/
theorem explicitConstructor_isError (constructor : Constructor) (arguments : List Transform)
    (diagnostic : Diagnostic)
    (reported : diagnostic ∈ (task.explicitConstructor constructor arguments).diagnostics) :
    diagnostic.IsErrorWithin (arguments.map (·.location)) := by
  unfold explicitConstructor at reported
  dsimp only at reported
  split at reported
  · cases reported
  · obtain ⟨value, isValue, same⟩ := List.mem_filterMap.mp reported
    obtain ⟨⟨parameter, argument⟩, isPair, rfl⟩ := List.mem_map.mp isValue
    cases inlined : argument.inline? task.params false task.sourceParam with
    | some text =>
        simp only [inlined] at same
        cases same
    | none =>
        simp only [inlined] at same
        cases same
        exact .ofError _ (List.mem_map_of_mem (List.of_mem_zip isPair).2)

theorem mappedByUser_reportsWithin (directive : MapMember) :
    (task.mappedByUser directive).ReportsWithin directive.locations := by
  obtain ⟨text, decided⟩ | decided := task.mappedByUser_cases directive
  · exact decided ▸ Verdict.assigned_reportsWithin _
  · exact decided ▸ Verdict.diagnosed_reportsWithin _ (List.mem_cons_of_mem _ List.mem_cons_self)

end

variable {task : MappingTask}

theorem CollectRule.reportsWithin {member : Member} {directive : MapCollection} {verdict : Verdict}
    (rule : task.CollectRule member directive (some verdict)) : verdict.ReportsWithin directive.locations := by
  cases rule with
  | written | read => exact Verdict.assigned_reportsWithin _
  | refused value isPart =>
      refine Verdict.diagnosed_reportsWithin _ ?_
      obtain given | rfl := isPart
      · simp [MapCollection.locations, given]
      · exact List.mem_append_right _ List.mem_cons_self

/-- What cannot be inferred is reported at the mapping method. -/
theorem InferRule.reportsWithin {registry : EnumRegistry} {member : Member} {decision : EnumRegistry × Verdict}
    (rule : task.InferRule registry member decision) : decision.2.ReportsWithin task.request.locations := by
  cases rule with
  | missing | mismatched => exact Verdict.diagnosed_reportsWithin _ List.mem_cons_self
  | converted => exact Verdict.assigned_reportsWithin _

/-- What the rules report about the constructor is an error at the mapping method or within the user's choice. -/
theorem ConstructorRule.reportsWithin {registry : EnumRegistry}
    {decision : EnumRegistry × ConstructorResult} (rule : task.ConstructorRule registry decision)
    (diagnostic : Diagnostic) (reported : diagnostic ∈ decision.2.diagnostics) :
    diagnostic.IsErrorWithin task.request.locations := by
  cases rule with
  | noConstructor | onlyUnfed | several =>
      cases List.mem_singleton.mp reported
      exact .ofError _ List.mem_cons_self
  | onlyParameterless | onlyFed | askedEmpty => cases reported
  | askedEmptyMissing location asked | askedArgumentsMissing arguments location asked =>
      cases List.mem_singleton.mp reported
      exact .ofError _
        (List.mem_cons_of_mem _ (Directives.locations_ofConstructor asked List.mem_cons_self))
  | askedArguments arguments location constructor asked =>
      refine (task.explicitConstructor_isError constructor arguments diagnostic reported).mono ?_
      exact fun place within => List.mem_cons_of_mem _
        (Directives.locations_ofConstructor asked (List.mem_cons_of_mem _ within))

/-- What the rules report about a member is an error at the mapping method or within a directive for the member. -/
theorem MemberRule.reportsWithin {registry : EnumRegistry} {member : Member}
    {decision : EnumRegistry × Verdict} (rule : task.MemberRule registry member decision) :
    decision.2.ReportsWithin task.request.locations := by
  cases rule with
  | system | notSettable => nofun
  | ignored directive found =>
      obtain ⟨_, decided⟩ | ⟨_, decided⟩ := ignoredByUser_cases member directive
      · exact decided ▸ Verdict.diagnosed_reportsWithin _
          (List.mem_cons_of_mem _ (Directives.locations_ofIgnore (List.mem_of_find?_eq_some found)))
      · rw [decided]
        nofun
  | mapped directive _ found =>
      exact (task.mappedByUser_reportsWithin directive).mono fun place within => List.mem_cons_of_mem _
        (Directives.locations_ofMapMember (List.mem_of_find?_eq_some found) within)
  | collected directive verdict _ _ found decided =>
      exact (collectedByUser?_rule decided).reportsWithin.mono fun place within => List.mem_cons_of_mem _
        (Directives.locations_ofCollection (List.mem_of_find?_eq_some found) within)
  | inferred => exact (task.infer_rule registry member).reportsWithin

variable (task)

/-- Every diagnostic of a resolution is an error that is located where the request says something. -/
theorem resolve_isErrorWithin (diagnostic : Diagnostic) (reported : diagnostic ∈ task.resolve.diagnostics) :
    diagnostic.IsErrorWithin task.request.locations := by
  rw [resolve_diagnostics, List.mem_append, List.mem_append] at reported
  rcases reported with (ofPairs | ofConstructor) | ofMembers
  · obtain ⟨pair, isPair, found⟩ := List.mem_filterMap.mp ofPairs
    refine (task.pairDiagnostic?_isError pair diagnostic found).mono fun place isPlace => ?_
    rw [List.mem_singleton.mp isPlace]
    exact List.mem_cons_of_mem _ (Directives.locations_ofEnum isPair)
  · exact (task.resolveConstructor_rule task.pairedRegistry).reportsWithin diagnostic ofConstructor
  · obtain ⟨result, listed, found⟩ := List.mem_filterMap.mp ofMembers
    obtain ⟨_, isClaim⟩ | ⟨_, _, _, rule⟩ := task.resolveMembers_rules _ _ _ result listed
    · rw [isClaim] at found
      cases found
    · exact rule.reportsWithin diagnostic found

end MappingTask

theorem Request.resolve_isErrorWithin {request : Request} {schema : Schema} {resolution : Resolution}
    (resolved : request.resolve schema = .ok resolution) {diagnostic : Diagnostic}
    (reported : diagnostic ∈ resolution.diagnostics) : diagnostic.IsErrorWithin request.locations := by
  obtain ⟨task, accepted, rfl⟩ := (request.resolve_ok schema resolution).mp resolved
  rw [← (request.toTask_ok schema task accepted).sameRequest]
  exact task.resolve_isErrorWithin diagnostic reported

end ObjectMapping
