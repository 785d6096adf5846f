/-
This file follows the names of enum functions through a run of registrations: each conversion keeps the name
that it got first, no two conversions share one, and the search for a free name always ends with one.
-/

import Mathlib.Data.Finset.Card
import ObjectMapping.Proofs.EnumFunction

namespace ObjectMapping

namespace EnumRegistry

/-- The name that is free when names are tried in their order: the short one, the long one, then the long one
with numbers from two on. -/
inductive IsFirstFree (taken : List String) (source destination : String) : String → Prop
  | short (free : s!"map_to_{destination}" ∉ taken) :
      IsFirstFree taken source destination s!"map_to_{destination}"
  | long (shortTaken : s!"map_to_{destination}" ∈ taken)
      (free : s!"map_{source}_to_{destination}" ∉ taken) :
      IsFirstFree taken source destination s!"map_{source}_to_{destination}"
  | numbered (number : Nat) (fromTwo : 2 ≤ number) (shortTaken : s!"map_to_{destination}" ∈ taken)
      (longTaken : s!"map_{source}_to_{destination}" ∈ taken)
      (smallerTaken : ∀ smaller, 2 ≤ smaller → smaller < number →
        s!"map_{source}_to_{destination}_{smaller}" ∈ taken)
      (free : s!"map_{source}_to_{destination}_{number}" ∉ taken) :
      IsFirstFree taken source destination s!"map_{source}_to_{destination}_{number}"

/-- The candidates behind the first two carry their places as numbers. -/
theorem candidates_numbered (source destination : String) (count : Nat) {number : Nat}
    (fromTwo : 2 ≤ number) (inRange : number < (candidates source destination count).length) :
    (candidates source destination count)[number] = s!"map_{source}_to_{destination}_{number}" := by
  obtain ⟨index, rfl⟩ := Nat.exists_eq_add_of_le' fromTwo
  simp only [candidates, List.getElem_cons_succ, List.getElem_map, List.getElem_range]
  rfl

/-- The search ends with the first name that is free. -/
theorem freshName_isFirstFree (registry : EnumRegistry) (source destination : String) :
    IsFirstFree registry.names source destination (registry.freshName source destination) := by
  have found := registry.freshName_found source destination
  obtain ⟨isFree, index, inRange, atIndex, before⟩ := List.find?_eq_some_iff_getElem.mp found
  have taken (place : Nat) (isBefore : place < index) :
      (candidates source destination registry.functions.length)[place] ∈ registry.names := by
    simpa using before place isBefore
  have free : registry.freshName source destination ∉ registry.names := by simpa using isFree
  rw [← atIndex] at free ⊢
  clear atIndex before found isFree
  rcases index with _ | _ | number
  · exact .short free
  · exact .long (taken 0 Nat.one_pos) free
  · have fromTwo : 2 ≤ number + 2 := Nat.le_add_left 2 number
    rw [candidates_numbered _ _ _ fromTwo] at free ⊢
    refine .numbered (number + 2) fromTwo (taken 0 (Nat.succ_pos _)) (taken 1 (Nat.lt_of_succ_le fromTwo)) ?_ free
    intro smaller isNumber isSmaller
    rw [← candidates_numbered source destination registry.functions.length isNumber]
    exact taken smaller isSmaller

theorem IsFirstFree.prefixed {taken : List String} {source destination name : String}
    (isFree : IsFirstFree taken source destination name) : ∃ rest, name = "map_" ++ rest := by
  cases isFree with
  | short => exact ⟨"to_" ++ destination, by rw [← String.append_assoc]; rfl⟩
  | long => exact ⟨source ++ ("_to_" ++ destination), by simp only [toString, String.append_assoc]⟩
  | numbered number =>
      exact ⟨source ++ ("_to_" ++ (destination ++ ("_" ++ toString number))),
        by simp only [toString, String.append_assoc]⟩

theorem registerAll_prefixed (schema : Schema) (keys : List EnumKey) :
    ∀ function ∈ (empty.registerAll schema keys).functions, ∃ rest, function.name = "map_" ++ rest :=
  registerAll_functions (fun registry _ => (registry.freshName_isFirstFree _ _).prefixed) keys

/-- The names that registrations return, one after another. -/
def answers (registry : EnumRegistry) (schema : Schema) : List EnumKey → List String
  | [] => []
  | key :: rest =>
      (registry.register schema key).2 :: (registry.register schema key).1.answers schema rest

section

variable (registry : EnumRegistry) (schema : Schema)

theorem answers_append (first second : List EnumKey) :
    registry.answers schema (first ++ second) =
      registry.answers schema first ++ (registry.registerAll schema first).answers schema second := by
  induction first generalizing registry with
  | nil => rfl
  | cons key rest inductionHypothesis =>
      rw [List.cons_append, answers, inductionHypothesis]
      rfl

theorem answers_length (keys : List EnumKey) : (registry.answers schema keys).length = keys.length := by
  induction keys generalizing registry with
  | nil => rfl
  | cons key rest inductionHypothesis => rw [answers, List.length_cons, inductionHypothesis, List.length_cons]

/-- What a registration returns stays the name of its function, whatever is registered behind it. -/
theorem answers_kept (keys : List EnumKey) :
    List.Forall₂ (fun key name => ∃ function ∈ (registry.registerAll schema keys).functions,
      function.key = key ∧ function.name = name) keys (registry.answers schema keys) := by
  induction keys generalizing registry with
  | nil => exact .nil
  | cons key rest inductionHypothesis =>
      refine .cons ?_ (inductionHypothesis (registry.register schema key).1)
      obtain ⟨function, isRegistered, sameName, sameKey⟩ := registry.register_function schema key
      have grows := (registry.register schema key).1.registerAll_grows schema rest
      exact ⟨function, grows.kept isRegistered, sameKey, sameName⟩

/-- A conversion that is new gets the first name that is free. -/
theorem register_new {key : EnumKey} (isNew : key ∉ registry.keys) :
    (registry.register schema key).2 =
      registry.freshName (schema.nameOf key.source).snakeCase (schema.nameOf key.destination).snakeCase := by
  obtain ⟨function, isFunction, sameKey, _⟩ | ⟨_, registered⟩ := registry.register_cases schema key
  · exact absurd (List.mem_map.mpr ⟨function, isFunction, sameKey⟩) isNew
  · rw [registered]
    rfl

end

/-- What a run of registrations makes, and returns. -/
structure IsRegistered (schema : Schema) (keys : List EnumKey) (registry : EnumRegistry)
    (names : List String) : Prop where
  /-- Each conversion has one function, in the order in which they were first asked for. -/
  inOrder : registry.functions.map (·.key) = keys.eraseDups
  count : registry.functions.length = keys.toFinset.card
  /-- What each registration returned is still the name of the function for its key. -/
  kept : List.Forall₂ (fun key name => ∃ function ∈ registry.functions,
    function.key = key ∧ function.name = name) keys names
  /-- Two registrations return one name if and only if they ask for one conversion. -/
  apart : ∀ first ∈ keys.zip names, ∀ second ∈ keys.zip names, first.2 = second.2 ↔ first.1 = second.1
  /-- A conversion that is asked for first gets the first name that no function has by then. -/
  fresh : ∀ before key after, keys = before ++ key :: after → key ∉ before → ∃ name,
    names[before.length]? = some name ∧ IsFirstFree (empty.registerAll schema before).names
      (schema.nameOf key.source).snakeCase (schema.nameOf key.destination).snakeCase name

/-- Registrations never change a name that they have returned and never return one name for two conversions. -/
theorem registerAll_answers (schema : Schema) (keys : List EnumKey) :
    IsRegistered schema keys (empty.registerAll schema keys) (empty.answers schema keys) := by
  have inOrder := registerAll_keys schema keys
  have kept := empty.answers_kept schema keys
  have distinctKeys : (empty.registerAll schema keys).keys.Nodup := inOrder ▸ eraseDups_nodup keys
  have distinctNames : (empty.registerAll schema keys).names.Nodup :=
    (empty.registerAll_grows schema keys).distinct .nil
  refine ⟨inOrder, ?count, kept, ?apart, ?fresh⟩
  case count =>
    have sameKeys : keys.eraseDups.toFinset = keys.toFinset := by
      ext key
      rw [List.mem_toFinset, List.mem_toFinset, List.mem_eraseDups]
    rw [← sameKeys, List.toFinset_card_of_nodup (eraseDups_nodup keys), ← inOrder]
    exact (List.length_map _).symm
  case apart =>
    intro first isFirst second isSecond
    obtain ⟨function, isFunction, sameKey, sameName⟩ := (List.forall₂_iff_zip.mp kept).2 isFirst
    obtain ⟨other, isOther, otherKey, otherName⟩ := (List.forall₂_iff_zip.mp kept).2 isSecond
    rw [← sameKey, ← sameName, ← otherKey, ← otherName]
    constructor
    · intro same
      rw [List.inj_on_of_nodup_map distinctNames isFunction isOther same]
    · intro same
      rw [List.inj_on_of_nodup_map distinctKeys isFunction isOther same]
  case fresh =>
    rintro before key after rfl isNew
    refine ⟨_, ?_, freshName_isFirstFree _ _ _⟩
    rw [answers_append, List.getElem?_append_right (Nat.le_of_eq (answers_length _ _ _)), answers_length,
      Nat.sub_self, answers, List.getElem?_cons_zero, register_new]
    rw [registerAll_keys, List.mem_eraseDups]
    exact isNew

end EnumRegistry

end ObjectMapping
