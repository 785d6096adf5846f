/-
This file proves that a registry of enum functions only grows, has a function for each conversion that was
asked for, and never gives two functions one name.
-/

import Mathlib.Data.List.Perm.Subperm
import ObjectMapping.EnumFunction
import ObjectMapping.Proofs.Concat

namespace ObjectMapping

namespace EnumKey

/-- The type that a function of this key takes. -/
def argument (key : EnumKey) : TypeRef :=
  if key.sourceNullable then .nullable (.named key.source) else .named key.source

/-- The type that a function of this key returns. -/
def result (key : EnumKey) : TypeRef :=
  if key.destinationNullable then .nullable (.named key.destination) else .named key.destination

/-- The destination of the key has every variant of its source. -/
def Fits (key : EnumKey) (schema : Schema) : Prop :=
  ∃ source destination, schema.variants? key.source = some source ∧
    schema.variants? key.destination = some destination ∧ source ⊆ destination

end EnumKey

namespace EnumRegistry

/-- The names with a number differ by their numbers. -/
theorem numbered_distinct (long : String) (count : Nat) :
    ((List.range count).map fun index => s!"{long}_{index + 2}").Nodup := by
  refine List.nodup_range.map ?_
  intro first second same
  have sameText : toString (first + 2) = toString (second + 2) :=
    (String.append_right_inj (long ++ "_")).mp (by simpa [String.append_assoc] using same)
  have sameDigits : Nat.toDigits 10 (first + 2) = Nat.toDigits 10 (second + 2) := by
    rw [← Nat.toList_repr, ← Nat.toList_repr]
    exact congrArg String.toList sameText
  have sameNumber := congrArg (Nat.ofDigitChars 10 · 0) sameDigits
  simp only [Nat.ofDigitChars_ten_toDigits] at sameNumber
  omega

/-- There are more candidates than names to avoid, so the search finds one that is free. -/
theorem freshName_found (registry : EnumRegistry) (source destination : String) :
    ((candidates source destination registry.functions.length).find? fun candidate =>
      !registry.names.contains candidate) = some (registry.freshName source destination) := by
  unfold freshName
  cases found : (candidates source destination registry.functions.length).find? fun candidate =>
      !registry.names.contains candidate with
  | some name => rfl
  | none =>
      exfalso
      have taken := List.find?_eq_none.mp found
      have within : (List.range (registry.functions.length + 1)).map
          (fun index => s!"map_{source}_to_{destination}_{index + 2}") ⊆ registry.names := by
        intro name present
        have isTaken := taken name (List.mem_cons_of_mem _ (List.mem_cons_of_mem _ present))
        simpa using isTaken
      have fits := ((numbered_distinct _ _).subperm within).length_le
      simp only [List.length_map, List.length_range, names] at fits
      omega

theorem freshName_fresh (registry : EnumRegistry) (source destination : String) :
    registry.freshName source destination ∉ registry.names := by
  simpa using List.find?_some (registry.freshName_found source destination)

/-- What registrations do to a registry: functions are only added, and names stay different. -/
structure Grows (before after : EnumRegistry) : Prop where
  kept : before.functions ⊆ after.functions
  distinct : before.names.Nodup → after.names.Nodup

theorem Grows.refl (registry : EnumRegistry) : registry.Grows registry :=
  ⟨fun _ present => present, fun distinct => distinct⟩

theorem Grows.trans {first second third : EnumRegistry} (before : first.Grows second)
    (after : second.Grows third) : first.Grows third :=
  ⟨fun _ present => after.kept (before.kept present),
    fun distinct => after.distinct (before.distinct distinct)⟩

def keys (registry : EnumRegistry) : List EnumKey := registry.functions.map (·.key)

/-- The function that a registration adds for a key without one. -/
def added (registry : EnumRegistry) (schema : Schema) (key : EnumKey) : EnumFunction :=
  ⟨registry.freshName (schema.nameOf key.source).snakeCase (schema.nameOf key.destination).snakeCase, key,
    (schema.variants? key.source).getD []⟩

/-- A key either has its function already, or one is added behind the others. -/
theorem register_cases (registry : EnumRegistry) (schema : Schema) (key : EnumKey) :
    (∃ function ∈ registry.functions, function.key = key ∧
      registry.register schema key = (registry, function.name)) ∨
    (key ∉ registry.keys ∧ registry.register schema key =
      (⟨registry.functions ++ [registry.added schema key]⟩, (registry.added schema key).name)) := by
  unfold register
  cases found : registry.get? key with
  | some function =>
      exact .inl ⟨function, List.mem_of_find?_eq_some found, by simpa using List.find?_some found, rfl⟩
  | none =>
      refine .inr ⟨?_, rfl⟩
      intro known
      obtain ⟨function, isFunction, sameKey⟩ := List.mem_map.mp known
      have other := List.find?_eq_none.mp found function isFunction
      simp [sameKey] at other

theorem register_grows (registry : EnumRegistry) (schema : Schema) (key : EnumKey) :
    registry.Grows (registry.register schema key).1 := by
  obtain ⟨_, _, _, registered⟩ | ⟨_, registered⟩ := registry.register_cases schema key
  · rw [registered]
    exact .refl registry
  · rw [registered]
    refine ⟨fun _ present => List.mem_append_left _ present, fun distinct => ?_⟩
    have isFresh : (registry.added schema key).name ∉ registry.names := registry.freshName_fresh _ _
    simp only [names, List.map_append, List.map_cons, List.map_nil]
    exact distinct.append (List.nodup_singleton _) (by simpa using isFresh)

/-- The name that a registration returns is that of a function for the key. -/
theorem register_function (registry : EnumRegistry) (schema : Schema) (key : EnumKey) :
    ∃ function ∈ (registry.register schema key).1.functions,
      function.name = (registry.register schema key).2 ∧ function.key = key := by
  obtain ⟨function, isFunction, sameKey, registered⟩ | ⟨_, registered⟩ := registry.register_cases schema key
  · rw [registered]
    exact ⟨function, isFunction, rfl, sameKey⟩
  · rw [registered]
    exact ⟨_, List.mem_append_right _ (List.mem_singleton.mpr rfl), rfl, rfl⟩

/-- A key has one function, which is added behind the others. -/
theorem register_keys (registry : EnumRegistry) (schema : Schema) (key : EnumKey) :
    (registry.register schema key).1.keys =
      if key ∈ registry.keys then registry.keys else registry.keys ++ [key] := by
  obtain ⟨function, isFunction, sameKey, registered⟩ | ⟨isNew, registered⟩ := registry.register_cases schema key
  · have known : key ∈ registry.keys := List.mem_map.mpr ⟨function, isFunction, sameKey⟩
    rw [registered, if_pos known]
  · rw [registered, if_neg isNew]
    simp [keys, added]

/-- Registers conversions one after another. -/
def registerAll (registry : EnumRegistry) (schema : Schema) (keys : List EnumKey) : EnumRegistry :=
  keys.foldl (fun registry key => (registry.register schema key).1) registry

theorem registerAll_append (registry : EnumRegistry) (schema : Schema) (first second : List EnumKey) :
    registry.registerAll schema (first ++ second) =
      (registry.registerAll schema first).registerAll schema second :=
  List.foldl_append

theorem registerAll_grows (registry : EnumRegistry) (schema : Schema) (keys : List EnumKey) :
    registry.Grows (registry.registerAll schema keys) := by
  induction keys generalizing registry with
  | nil => exact .refl registry
  | cons key rest inductionHypothesis =>
      exact (registry.register_grows schema key).trans (inductionHypothesis _)

/-- The functions stand in the order in which they were first asked for. -/
theorem registerAll_keys (schema : Schema) (keys : List EnumKey) :
    (empty.registerAll schema keys).keys = keys.eraseDups := by
  induction keys using List.reverseRecOn with
  | nil => rfl
  | append_singleton keys key inductionHypothesis =>
      rw [registerAll_append, eraseDups_concat]
      refine (register_keys _ schema key).trans ?_
      simp only [inductionHypothesis, List.mem_eraseDups]

/-- What holds of every function that is added holds of all of them. -/
theorem registerAll_functions {schema : Schema} {holds : EnumFunction → Prop}
    (added : ∀ (registry : EnumRegistry) (key : EnumKey), holds (registry.added schema key))
    (keys : List EnumKey) : ∀ function ∈ (empty.registerAll schema keys).functions, holds function := by
  induction keys using List.reverseRecOn with
  | nil => nofun
  | append_singleton keys key inductionHypothesis =>
      rw [registerAll_append]
      change ∀ function ∈ (((empty.registerAll schema keys).register schema key).1).functions, _
      obtain ⟨_, _, _, registered⟩ | ⟨_, registered⟩ := (empty.registerAll schema keys).register_cases schema key
      · rw [registered]
        exact inductionHypothesis
      · rw [registered]
        intro function present
        obtain before | isNew := List.mem_append.mp present
        · exact inductionHypothesis function before
        · rw [List.mem_singleton.mp isNew]
          exact added _ key

/-- A function has the variants of its source, in their order. -/
theorem registerAll_variants (schema : Schema) (keys : List EnumKey) :
    ∀ function ∈ (empty.registerAll schema keys).functions,
      function.variants = (schema.variants? function.key.source).getD [] :=
  registerAll_functions (fun _ _ => rfl) keys

end EnumRegistry

end ObjectMapping
