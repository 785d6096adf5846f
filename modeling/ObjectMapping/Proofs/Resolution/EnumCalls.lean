/-
This file accounts for the enum functions of a plan. Each stage of a resolution registers the conversions
whose functions it calls, in the order of the calls, and a stage that gives no value registers none.
-/

import ObjectMapping.Proofs.Expr
import ObjectMapping.Proofs.Resolution.Values

namespace ObjectMapping

namespace Expr

def called? : Expr → Option String
  | .enumConvert function _ => Option.some function
  | _ => none

/-- The enum functions that an expression calls, at any depth. -/
def calls (expr : Expr) : List String := expr.parts.filterMap called?

theorem mem_calls (expr : Expr) (function : String) :
    function ∈ expr.calls ↔ ∃ argument, .enumConvert function argument ∈ expr.parts := by
  rw [calls, List.mem_filterMap]
  constructor
  · rintro ⟨part, present, called⟩
    cases part <;> cases called
    exact ⟨_, present⟩
  · rintro ⟨argument, present⟩
    exact ⟨_, present, rfl⟩

@[simp]
theorem calls_enumConvert (function : String) (value : Expr) :
    (enumConvert function value).calls = function :: value.calls :=
  rfl

@[simp]
theorem calls_widen (value : Expr) (target : Scalar) : (widen value target).calls = value.calls :=
  rfl

@[simp]
theorem calls_some (value : Expr) : (some value).calls = value.calls :=
  rfl

@[simp]
theorem calls_collect (source transform : Expr) (binder : String) (target : CollectionKind) :
    (collect source binder transform target).calls = source.calls ++ transform.calls := by
  have itsParts : (collect source binder transform target).parts =
      collect source binder transform target :: (source.parts ++ transform.parts) := by
    simp [parts, inside]
  rw [calls, itsParts, List.filterMap_cons_none rfl, List.filterMap_append]
  rfl

@[simp]
theorem calls_collectVerbatim (source binder : String) (transform : Expr) (target : CollectionKind) :
    (collectVerbatim source binder transform target).calls = transform.calls :=
  rfl

/-- What is handed to an included mapper calls what the value calls: parameters call nothing. -/
@[simp]
theorem calls_delegate (mapper method : String) (value : Expr) (forwarded : List String) :
    (delegate mapper method (value :: forwarded.map .param)).calls = value.calls := by
  have ofParams : (forwarded.map Expr.param).filterMap called? = [] := by
    rw [List.filterMap_map]
    exact List.filterMap_eq_nil_iff.mpr fun _ _ => rfl
  simp only [calls, parts, inside, allParts, allParts_params, List.filterMap_append, List.filterMap_cons,
    ofParams, List.append_nil]
  rfl

theorem calls_apply (conversion : Conversion) (value : Expr) : (conversion.apply value).calls = value.calls := by
  cases conversion <;> rfl

end Expr

/-- A name is that of the function for a key. -/
def EnumRegistry.Names (registry : EnumRegistry) (name : String) (key : EnumKey) : Prop :=
  ∃ function ∈ registry.functions, function.name = name ∧ function.key = key

/-- A stage of a resolution registers conversions that fit, and calls their functions in that order. -/
structure Needs (schema : Schema) (before after : EnumRegistry) (calls : List String) (keys : List EnumKey) :
    Prop where
  fits : ∀ key ∈ keys, key.Fits schema
  registered : after = before.registerAll schema keys
  called : List.Forall₂ after.Names calls keys

namespace Needs

variable {schema : Schema} {before middle after : EnumRegistry}

theorem nothing : Needs schema before before [] [] :=
  ⟨nofun, rfl, .nil⟩

theorem register {key : EnumKey} (fits : key.Fits schema) :
    Needs schema before (before.register schema key).1 [(before.register schema key).2] [key] :=
  ⟨by simpa using fits, rfl, .cons (before.register_function schema key) .nil⟩

theorem trans {firstCalls secondCalls : List String} {firstKeys secondKeys : List EnumKey}
    (first : Needs schema before middle firstCalls firstKeys)
    (second : Needs schema middle after secondCalls secondKeys) :
    Needs schema before after (firstCalls ++ secondCalls) (firstKeys ++ secondKeys) := by
  have grown : middle.Grows after := by
    rw [second.registered]
    exact middle.registerAll_grows schema secondKeys
  refine ⟨?_, ?_, ?_⟩
  · intro key present
    obtain inFirst | inSecond := List.mem_append.mp present
    · exact first.fits key inFirst
    · exact second.fits key inSecond
  · rw [EnumRegistry.registerAll_append, ← first.registered, second.registered]
  · refine List.rel_append (first.called.imp ?_) second.called
    rintro name key ⟨function, known, named⟩
    exact ⟨function, grown.kept known, named⟩

end Needs

namespace MappingTask

variable {task : MappingTask}

theorem enumCall_needs {registry : EnumRegistry} {key : EnumKey} (fits : key.Fits task.schema) {value : Expr}
    (plain : value.calls = []) :
    Needs task.schema registry (task.enumCall registry key value).1 (task.enumCall registry key value).2.calls
      [key] := by
  have called : (task.enumCall registry key value).2.calls = [(registry.register task.schema key).2] := by
    simp [enumCall, plain]
  rw [called]
  exact .register fits

/-- A value that calls nothing yet is converted by calls of the functions that its relation asks for. -/
theorem convert?_needs {registry : EnumRegistry} {value : Expr} {source destination : TypeRef}
    {relation : TypeRelation} {found : EnumRegistry × Expr} (fits : ∀ key ∈ relation.keys, key.Fits task.schema)
    (plain : value.calls = [])
    (converted : task.convert? registry value source destination relation = some found) :
    Needs task.schema registry found.1 found.2.calls relation.keys := by
  cases relation with
  | exact =>
      cases converted
      rw [plain]
      exact .nothing
  | «enum» key =>
      cases converted
      exact enumCall_needs (fits key (List.mem_singleton_self key)) plain
  | implicit conversion =>
      cases converted
      rw [Expr.calls_apply, plain]
      exact .nothing
  | collection element target =>
      obtain ⟨type, _, rfl⟩ := Option.map_eq_some_iff.mp converted
      rw [Expr.calls_collect, plain, List.nil_append]
      cases element with
      | exact => exact .nothing
      | «enum» key => exact enumCall_needs (fits key (List.mem_singleton_self key)) rfl
      | implicit conversion =>
          rw [convertElement, Expr.calls_apply]
          exact .nothing
  | delegated delegation =>
      unfold convert? at converted
      dsimp only at converted
      split at converted
      · obtain ⟨type, _, rfl⟩ := Option.map_eq_some_iff.mp converted
        rw [Expr.calls_collect, plain, delegateCall, Expr.calls_delegate]
        exact .nothing
      · cases converted
        rw [delegateCall, Expr.calls_delegate, plain]
        exact .nothing
  | nullableMismatch | enumMismatch | incompatible => cases converted

theorem relation_convert?_needs {registry : EnumRegistry} {member : Member} {destination : TypeRef}
    {found : EnumRegistry × Expr}
    (converted : task.convert? registry (task.read member) member.type destination
      (task.relation member.type destination) = some found) :
    ∃ keys, Needs task.schema registry found.1 found.2.calls keys :=
  ⟨_, convert?_needs (TypeRelation.classify_fits _ _ _ _ _) rfl converted⟩

/-- What the user writes calls no enum functions. -/
theorem UserRule.calls {destination : TypeRef} {value : Expr} (rule : task.UserRule destination value) :
    value.calls = [] := by
  cases rule with
  | written => rfl
  | collected =>
      rw [Expr.calls_collect]
      rfl
  | collectedWritten => rfl

end MappingTask

/-- The enum functions that a verdict calls. -/
def Verdict.calls : Verdict → List String
  | .assigned value => value.calls
  | .claimed | .ignored _ | .diagnosed _ => []

namespace MappingTask

variable {task : MappingTask}

theorem ruled?_calls {member : Member} {verdict : Verdict} (decided : task.ruled? member = some verdict) :
    verdict.calls = [] := by
  cases verdict with
  | assigned value => exact (ruled?_given decided).calls
  | claimed | ignored | diagnosed => rfl

theorem InferRule.needs {registry : EnumRegistry} {member : Member} {decision : EnumRegistry × Verdict}
    (rule : task.InferRule registry member decision) :
    ∃ keys, Needs task.schema registry decision.1 decision.2.calls keys := by
  cases rule with
  | missing | mismatched => exact ⟨[], .nothing⟩
  | converted source extended value found made => exact relation_convert?_needs made

theorem resolveMember_needs (registry : EnumRegistry) (member : Member) :
    ∃ keys, Needs task.schema registry (task.resolveMember registry member).1
      (task.resolveMember registry member).2.calls keys := by
  rw [resolveMember_ruled]
  cases decided : task.ruled? member with
  | none => exact (task.infer_rule registry member).needs
  | some verdict =>
      refine ⟨[], ?_⟩
      change Needs task.schema registry registry verdict.calls []
      rw [ruled?_calls decided]
      exact .nothing

theorem settle_needs (claimed : List String) (registry : EnumRegistry) (member : Member) :
    ∃ keys, Needs task.schema registry (task.settle claimed registry member).1
      (task.settle claimed registry member).2.calls keys := by
  unfold settle
  split
  · exact ⟨[], .nothing⟩
  · exact resolveMember_needs registry member

theorem resolveMembers_needs (claimed : List String) (registry : EnumRegistry) (members : List Member) :
    ∃ keys, Needs task.schema registry (task.resolveMembers claimed registry members).1
      ((task.resolveMembers claimed registry members).2.flatMap (·.verdict.calls)) keys := by
  induction members generalizing registry with
  | nil => exact ⟨[], .nothing⟩
  | cons member rest inductionHypothesis =>
      obtain ⟨keys, needs⟩ := task.settle_needs claimed registry member
      obtain ⟨further, furtherNeeds⟩ := inductionHypothesis (task.settle claimed registry member).1
      rw [resolveMembers_cons, List.flatMap_cons]
      exact ⟨keys ++ further, needs.trans furtherNeeds⟩

theorem fed_related {parameters : List Parameter} {found : List MatchedParameter}
    (fed : List.Forall₂ (fun parameter found => task.feed? parameter = some found) parameters found) :
    ∀ matched ∈ found, matched.relation = task.relation matched.member.type matched.parameter.type := by
  induction fed with
  | nil =>
      intro matched present
      cases present
  | cons matching _ inductionHypothesis =>
      obtain ⟨sameParameter, _, _, isRelation, _⟩ := task.feed?_some _ _ matching
      exact List.forall_mem_cons.mpr ⟨by rw [isRelation, sameParameter], inductionHypothesis⟩

theorem buildArguments_needs (registry : EnumRegistry) {found : List MatchedParameter}
    (related : ∀ matched ∈ found, matched.relation = task.relation matched.member.type matched.parameter.type) :
    ∃ keys, Needs task.schema registry (task.buildArguments registry found).1
      ((task.buildArguments registry found).2.flatMap (·.expr.calls)) keys := by
  induction found generalizing registry with
  | nil => exact ⟨[], .nothing⟩
  | cons matched rest inductionHypothesis =>
      obtain ⟨isRelation, restRelated⟩ := List.forall_mem_cons.mp related
      rw [buildArguments, isRelation]
      split
      · next extended expr converted =>
          obtain ⟨keys, needs⟩ := relation_convert?_needs converted
          obtain ⟨further, furtherNeeds⟩ := inductionHypothesis extended restRelated
          exact ⟨keys ++ further, needs.trans furtherNeeds⟩
      · exact inductionHypothesis _ restRelated

theorem explicitConstructor_calls {constructor : Constructor} {arguments : List Transform}
    {call : ConstructorPlan} (planned : (task.explicitConstructor constructor arguments).plan = some call) :
    call.arguments.flatMap (·.expr.calls) = [] := by
  rw [List.flatMap_eq_nil_iff]
  intro argument present
  obtain ⟨parameter, _, text, rfl⟩ := (explicitConstructor_isWritten planned).arguments argument present
  rfl

/-- A constructor that cannot be called registers nothing, by whatever rule it is refused. -/
theorem ConstructorRule.needs {registry : EnumRegistry} {decision : EnumRegistry × ConstructorResult}
    (rule : task.ConstructorRule registry decision) :
    ∃ keys, Needs task.schema registry decision.1
      (decision.2.plan.elim [] fun call => call.arguments.flatMap (·.expr.calls)) keys := by
  cases rule with
  | noConstructor | onlyUnfed | several | askedEmptyMissing | askedArgumentsMissing | onlyParameterless
  | askedEmpty => exact ⟨[], .nothing⟩
  | onlyFed constructor found _ _ _ fed =>
      exact buildArguments_needs _ (fed_related ((mapM_some _ _ _).mp fed))
  | askedArguments arguments location constructor =>
      refine ⟨[], ?_⟩
      cases planned : (task.explicitConstructor constructor arguments).plan with
      | none => exact .nothing
      | some call =>
          rw [Option.elim_some, explicitConstructor_calls planned]
          exact .nothing

variable (task) in
/-- The key of an enum pair of the user, unless variants stand in the way. -/
def pairKey? (pair : MapEnum) : Option EnumKey :=
  match task.schema.variants? pair.source, task.schema.variants? pair.destination with
  | some sourceVariants, some destinationVariants =>
      if (TypeRelation.missingVariants sourceVariants destinationVariants).isEmpty then
        some ⟨pair.source, pair.destination, false, false⟩
      else none
  | _, _ => none

theorem pairKey?_some {pair : MapEnum} {key : EnumKey} (found : task.pairKey? pair = some key) :
    key = ⟨pair.source, pair.destination, false, false⟩ ∧ key.Fits task.schema := by
  unfold pairKey? at found
  split at found
  · next sourceVariants destinationVariants isSource isDestination =>
      split at found
      · next noneMissing =>
          cases found
          exact ⟨rfl, sourceVariants, destinationVariants, isSource, isDestination,
            (TypeRelation.missingVariants_nil _ _).mp (List.isEmpty_iff.mp noneMissing)⟩
      · cases found
  · cases found

theorem registerPairs_keys (registry : EnumRegistry) (pairs : List MapEnum) :
    (task.registerPairs registry pairs).1 = registry.registerAll task.schema (pairs.filterMap task.pairKey?) := by
  have ofPair (registry : EnumRegistry) (pair : MapEnum) :
      (task.registerPair registry pair).1 = registry.registerAll task.schema (task.pairKey? pair).toList := by
    unfold registerPair pairKey?
    cases task.schema.variants? pair.source with
    | none => rfl
    | some sourceVariants =>
        cases task.schema.variants? pair.destination with
        | none => rfl
        | some destinationVariants =>
            dsimp only
            split <;> rfl
  induction pairs generalizing registry with
  | nil => rfl
  | cons pair rest inductionHypothesis =>
      rw [registerPairs, inductionHypothesis, ofPair, ← EnumRegistry.registerAll_append]
      cases found : task.pairKey? pair with
      | none => rw [List.filterMap_cons_none found, Option.toList_none, List.nil_append]
      | some key => rw [List.filterMap_cons_some found, Option.toList_some, List.singleton_append]

theorem assignments_calls (results : List MemberResult) :
    ((results.filterMap (·.assignment?)).map (·.expr)).flatMap Expr.calls =
      results.flatMap (·.verdict.calls) := by
  induction results with
  | nil => rfl
  | cons result rest inductionHypothesis =>
      obtain ⟨member, verdict⟩ := result
      rw [List.flatMap_cons, ← inductionHypothesis]
      cases verdict <;> rfl

end MappingTask

/-- The functions of a plan are those of the enum pairs of the user and those that its values call, each
with the variants that it converts, in the order of first need. -/
structure Plan.NeedsFunctions (plan : Plan) (task : MappingTask) : Prop where
  called : ∀ value ∈ plan.values, ∀ name argument, .enumConvert name argument ∈ value.parts →
    ∃ function ∈ plan.enumFunctions, function.name = name
  needed : ∀ function ∈ plan.enumFunctions,
    (∃ value ∈ plan.values, ∃ argument, .enumConvert function.name argument ∈ value.parts) ∨
      ∃ pair ∈ task.request.directives.enums,
        function.key = ⟨pair.source, pair.destination, false, false⟩ ∧ function.key.Fits task.schema
  variants : ∀ function ∈ plan.enumFunctions,
    task.schema.variants? function.key.source = some function.variants ∧
      ∃ destination, task.schema.variants? function.key.destination = some destination ∧
        function.variants ⊆ destination
  /-- A name stands for one function only. -/
  distinct : (plan.enumFunctions.map (·.name)).Nodup
  /-- The arguments of the constructor come first among the values, then what is assigned, by rank. -/
  order : ∃ keys, List.Forall₂ (fun name key => ∃ function ∈ plan.enumFunctions,
      function.name = name ∧ function.key = key) (plan.values.flatMap Expr.calls) keys ∧
    plan.enumFunctions.map (·.key) =
      (task.request.directives.enums.filterMap task.pairKey? ++ keys).eraseDups
  ranked : ∃ members : List Member, (∀ member ∈ members, member ∈ task.destinationStruct.members) ∧
    (members.map (·.rank)).Pairwise (· < ·) ∧ members.map (·.name) = plan.assignments.map (·.member)

namespace MappingTask

variable (task : MappingTask)

/-- From the enum pairs of the user on, the functions of a plan are added by the calls of its values. -/
theorem resolve_needs : ∃ keys, Needs task.schema task.pairedRegistry ⟨task.resolve.plan.enumFunctions⟩
    (task.resolve.plan.values.flatMap Expr.calls) keys := by
  obtain ⟨ofArguments, argumentsNeed⟩ := (task.resolveConstructor_rule task.pairedRegistry).needs
  obtain ⟨ofMembers, membersNeed⟩ := task.resolveMembers_needs task.constructorResult.claimed
    task.constructedRegistry task.destinationStruct.members
  have whole := argumentsNeed.trans membersNeed
  have values : task.resolve.plan.values.flatMap Expr.calls =
      (task.constructorResult.plan.elim [] fun call => call.arguments.flatMap (·.expr.calls)) ++
        task.memberResults.flatMap (·.verdict.calls) := by
    rw [← assignments_calls, Plan.values, List.flatMap_append]
    change (task.constructorResult.plan.elim [] fun call => call.arguments.map (·.expr)).flatMap Expr.calls ++ _ = _
    cases task.constructorResult.plan with
    | none => rfl
    | some call =>
        rw [Option.elim_some, Option.elim_some, List.flatMap_map]
        rfl
  rw [values]
  exact ⟨_, whole⟩

section

variable {task} {keys : List EnumKey} (needs : Needs task.schema task.pairedRegistry
  ⟨task.resolve.plan.enumFunctions⟩ (task.resolve.plan.values.flatMap Expr.calls) keys)
include needs

/-- The functions of a plan are those for the enum pairs of the user and for the calls of its values. -/
theorem enumFunctions_registered : (⟨task.resolve.plan.enumFunctions⟩ : EnumRegistry) =
    EnumRegistry.empty.registerAll task.schema
      (task.request.directives.enums.filterMap task.pairKey? ++ keys) := by
  rw [EnumRegistry.registerAll_append, ← registerPairs_keys]
  exact needs.registered

theorem enumFunctions_keys : task.resolve.plan.enumFunctions.map (·.key) =
    (task.request.directives.enums.filterMap task.pairKey? ++ keys).eraseDups := by
  have ofRegistry := EnumRegistry.registerAll_keys task.schema
    (task.request.directives.enums.filterMap task.pairKey? ++ keys)
  rw [← enumFunctions_registered needs] at ofRegistry
  exact ofRegistry

theorem enumFunctions_asked {function : EnumFunction} (present : function ∈ task.resolve.plan.enumFunctions) :
    function.key ∈ task.request.directives.enums.filterMap task.pairKey? ∨ function.key ∈ keys := by
  have listed := List.mem_map_of_mem (f := (·.key)) present
  rw [enumFunctions_keys needs, List.mem_eraseDups] at listed
  exact List.mem_append.mp listed

theorem enumFunctions_fit {function : EnumFunction} (present : function ∈ task.resolve.plan.enumFunctions) :
    function.key.Fits task.schema := by
  obtain ofPair | ofCall := enumFunctions_asked needs present
  · obtain ⟨pair, _, isKey⟩ := List.mem_filterMap.mp ofPair
    exact (pairKey?_some isKey).2
  · exact needs.fits function.key ofCall

/-- A function whose key is that of a call is called, since no two functions share a key. -/
theorem enumFunctions_called {function : EnumFunction} (present : function ∈ task.resolve.plan.enumFunctions)
    (ofCall : function.key ∈ keys) :
    ∃ value ∈ task.resolve.plan.values, ∃ argument, .enumConvert function.name argument ∈ value.parts := by
  obtain ⟨name, isCalled, other, known, named, sameKey⟩ := forall₂_right needs.called function.key ofCall
  have distinctKeys : (task.resolve.plan.enumFunctions.map (·.key)).Nodup := by
    rw [enumFunctions_keys needs]
    exact eraseDups_nodup _
  obtain rfl := List.inj_on_of_nodup_map distinctKeys known present sameKey
  obtain ⟨value, isValue, inValue⟩ := List.mem_flatMap.mp isCalled
  rw [← named] at inValue
  exact ⟨value, isValue, (value.mem_calls _).mp inValue⟩

theorem enumFunctions_variants {function : EnumFunction} (present : function ∈ task.resolve.plan.enumFunctions) :
    task.schema.variants? function.key.source = some function.variants ∧
      ∃ destination, task.schema.variants? function.key.destination = some destination ∧
        function.variants ⊆ destination := by
  obtain ⟨source, destination, isSource, isDestination, included⟩ := enumFunctions_fit needs present
  have ofRegistry := EnumRegistry.registerAll_variants task.schema
    (task.request.directives.enums.filterMap task.pairKey? ++ keys)
  rw [← enumFunctions_registered needs] at ofRegistry
  have sameVariants := ofRegistry function present
  rw [isSource, Option.getD_some] at sameVariants
  rw [sameVariants]
  exact ⟨isSource, destination, isDestination, included⟩

theorem enumFunctions_distinct : (task.resolve.plan.enumFunctions.map (·.name)).Nodup := by
  have grows := EnumRegistry.empty.registerAll_grows task.schema
    (task.request.directives.enums.filterMap task.pairKey? ++ keys)
  rw [← enumFunctions_registered needs] at grows
  exact grows.distinct List.nodup_nil

end

theorem assignments_ranked {id : TypeId} (laidOut : task.destinationStruct.IsLaidOut id) :
    ∃ members : List Member, (∀ member ∈ members, member ∈ task.destinationStruct.members) ∧
      (members.map (·.rank)).Pairwise (· < ·) ∧
      members.map (·.name) = task.resolve.plan.assignments.map (·.member) := by
  obtain ⟨members, within, sameNames⟩ := List.sublist_map_iff.mp task.assignments_sublist
  refine ⟨members, fun member present => within.subset present, ?_, sameNames.symm⟩
  have ranks := within.map (·.rank)
  rw [laidOut.ranks] at ranks
  exact List.pairwise_lt_range.sublist ranks

theorem plan_needsFunctions {id : TypeId} (laidOut : task.destinationStruct.IsLaidOut id) :
    task.resolve.plan.NeedsFunctions task := by
  obtain ⟨keys, needs⟩ := task.resolve_needs
  refine
    { called := ?called
      needed := ?needed
      variants := fun function present => enumFunctions_variants needs present
      distinct := enumFunctions_distinct needs
      order := ⟨keys, needs.called, enumFunctions_keys needs⟩
      ranked := task.assignments_ranked laidOut }
  case called =>
    intro value isValue name argument isCall
    have isCalled : name ∈ task.resolve.plan.values.flatMap Expr.calls :=
      List.mem_flatMap.mpr ⟨value, isValue, (value.mem_calls name).mpr ⟨argument, isCall⟩⟩
    obtain ⟨key, _, function, known, named, _⟩ := forall₂_left needs.called name isCalled
    exact ⟨function, known, named⟩
  case needed =>
    intro function present
    obtain ofPair | ofCall := enumFunctions_asked needs present
    · obtain ⟨pair, isPair, isKey⟩ := List.mem_filterMap.mp ofPair
      obtain ⟨sameKey, keyFits⟩ := pairKey?_some isKey
      exact .inr ⟨pair, isPair, sameKey, keyFits⟩
    · exact .inl (enumFunctions_called needs present ofCall)

end MappingTask

/-- Every request that resolves against a built schema gets the enum functions that it needs, and no others. -/
theorem Request.resolve_needsFunctions (draft : SchemaDraft) (schema : Schema) (request : Request)
    (resolution : Resolution) (built : draft.build = .ok schema)
    (resolved : request.resolve schema = .ok resolution) :
    ∃ task, request.toTask schema = .ok task ∧ resolution.plan.NeedsFunctions task := by
  obtain ⟨task, id, accepted, laidOut, rfl⟩ :=
    request.resolve_task draft schema resolution built resolved
  exact ⟨task, accepted, task.plan_needsFunctions laidOut⟩

/-- An invoice shown cannot be constructed, so the enum function for its first parameter is not needed until
its members are assigned. -/
theorem invoiceRequest_needsFunctions :
    SchemaDraft.invoiceDraft.build = .ok SchemaDraft.invoiceSchema ∧
      ∃ resolution, invoiceRequest.resolve SchemaDraft.invoiceSchema = .ok resolution ∧
        resolution.plan.constructor.isNone ∧
        resolution.plan.enumFunctions.map (·.name) =
          ["map_to_invoice_status_dto", "map_invoice_status_to_invoice_status_dto"] ∧
        ∃ task, invoiceRequest.toTask SchemaDraft.invoiceSchema = .ok task ∧
          resolution.plan.NeedsFunctions task :=
  ⟨SchemaDraft.invoiceDraft_build, _, rfl, rfl, by decide +kernel,
    Request.resolve_needsFunctions SchemaDraft.invoiceDraft SchemaDraft.invoiceSchema invoiceRequest _
      SchemaDraft.invoiceDraft_build rfl⟩

end ObjectMapping
