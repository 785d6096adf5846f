/-
This file proves that the tables of a struct lead to its members: what they give for a name is the first member
that has it.
-/

import Mathlib.Data.List.Basic
import ObjectMapping.Schema.Basic

namespace ObjectMapping

theorem lookup_enterPlace (places : List (String × Nat)) (first name : String) (place : Nat) :
    (enterPlace places (first, place)).lookup name =
      (places.lookup name).or (if first = name then some place else none) := by
  unfold enterPlace
  dsimp only
  by_cases same : first = name
  · subst same
    cases entered : places.lookup first <;> simp [entered, List.lookup_append]
  · have notFirst : [(first, place)].lookup name = none := by
      rw [List.lookup_cons, beq_eq_false_iff_ne.mpr (Ne.symm same)]
      rfl
    rw [if_neg same, Option.or_none]
    split
    · rfl
    · rw [List.lookup_append, notFirst, Option.or_none]

/-- Names that are entered one after the other get their first places, unless they had one before. -/
theorem lookup_enterPlaces (names : List String) (places : List (String × Nat)) (start : Nat) (name : String) :
    ((names.zipIdx start).foldl enterPlace places).lookup name =
      (places.lookup name).or ((names.findIdx? (· == name)).map (· + start)) := by
  induction names generalizing places start with
  | nil => simp
  | cons first rest inductionHypothesis =>
      rw [List.zipIdx_cons, List.foldl_cons, inductionHypothesis, lookup_enterPlace, Option.or_assoc,
        List.findIdx?_cons]
      congr 1
      by_cases same : first = name
      · simp [same]
      · rw [if_neg same, if_neg (by simpa using same), Option.none_or, Option.map_map]
        refine congrArg (Option.map · _) (funext fun place => ?_)
        rw [Function.comp_apply, Nat.add_right_comm, Nat.add_assoc]

theorem lookup_firstPlaces (names : List String) (name : String) :
    (firstPlaces names).lookup name = names.findIdx? (· == name) := by
  rw [firstPlaces, lookup_enterPlaces]
  simp

namespace StructType

variable (type : StructType) (name : String)

theorem lookup_places : type.places.lookup name = type.members.findIdx? (·.name == name) := by
  rw [places, lookup_firstPlaces, List.findIdx?_map]
  rfl

theorem lookup_placesIgnoringCase :
    type.placesIgnoringCase.lookup name = type.members.findIdx? fun member => Text.lower member.name == name := by
  rw [placesIgnoringCase, lookup_firstPlaces, List.findIdx?_map]
  rfl

/-- The tables hold places of members alone. -/
theorem places_inRange {place : Nat} (entered : type.places.lookup name = some place) :
    place < type.members.length := by
  rw [lookup_places, List.findIdx?_eq_some_iff_getElem] at entered
  exact entered.1

theorem placesIgnoringCase_inRange {place : Nat} (entered : type.placesIgnoringCase.lookup name = some place) :
    place < type.members.length := by
  rw [lookup_placesIgnoringCase, List.findIdx?_eq_some_iff_getElem] at entered
  exact entered.1

theorem member?_eq : type.member? name = type.members.find? (·.name == name) := by
  rw [member?, lookup_places, List.find?_eq_bind_findIdx?_getElem?]

theorem memberIgnoringCase?_eq : type.memberIgnoringCase? name =
    type.members.find? fun member => Text.lower member.name == Text.lower name := by
  rw [memberIgnoringCase?, lookup_placesIgnoringCase, List.find?_eq_bind_findIdx?_getElem?]

variable {type name}

theorem mem_of_member? {member : Member} (found : type.member? name = some member) :
    member ∈ type.members ∧ member.name = name := by
  rw [member?_eq] at found
  exact ⟨List.mem_of_find?_eq_some found, by simpa using List.find?_some found⟩

theorem mem_of_memberIgnoringCase? {member : Member} (found : type.memberIgnoringCase? name = some member) :
    member ∈ type.members ∧ Text.lower member.name = Text.lower name := by
  rw [memberIgnoringCase?_eq] at found
  exact ⟨List.mem_of_find?_eq_some found, by simpa using List.find?_some found⟩

end StructType

end ObjectMapping
