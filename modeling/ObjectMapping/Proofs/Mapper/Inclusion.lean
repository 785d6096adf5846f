/-
This file proves what is known of the inclusions of mappers that are accepted: the mappers go by different
names, and each includes those that it names, once and in the order in which it names them.
-/

import Mathlib.Data.List.Nodup
import ObjectMapping.Proofs.Fallible
import ObjectMapping.Program.Basic

namespace ObjectMapping

namespace Inclusion

/-- No mapper is reported as repeated if and only if the names are different, also from those before. -/
theorem repeatedMappers_nil {seen : List String} {mappers : List Mapper} :
    repeatedMappers seen mappers = [] ↔
      (mappers.map (·.name)).Nodup ∧ ∀ mapper ∈ mappers, mapper.name ∉ seen := by
  induction mappers generalizing seen with
  | nil => simp [repeatedMappers]
  | cons mapper rest inductionHypothesis =>
      rw [repeatedMappers, List.map_cons, List.nodup_cons, List.forall_mem_cons]
      split
      · next isSeen =>
          rw [List.contains_iff_mem] at isSeen
          exact ⟨nofun, fun different => absurd isSeen different.2.1⟩
      · next notSeen =>
          rw [List.contains_iff_mem] at notSeen
          rw [inductionHypothesis]
          constructor
          · rintro ⟨distinct, unseen⟩
            refine ⟨⟨?_, distinct⟩, notSeen, fun other present => ?_⟩
            · intro repeated
              obtain ⟨other, present, same⟩ := List.mem_map.mp repeated
              exact unseen other present (same ▸ List.mem_cons_self)
            · exact fun isSeen => unseen other present (List.mem_cons_of_mem _ isSeen)
          · rintro ⟨⟨once, distinct⟩, _, unseen⟩
            refine ⟨distinct, fun other present isSeen => ?_⟩
            obtain same | isSeen := List.mem_cons.mp isSeen
            · exact once (List.mem_map.mpr ⟨other, present, same⟩)
            · exact unseen other present isSeen

/-- The places that names are looked up at, behind those found before. -/
theorem lookUp_ok {names : List String} {found : List Nat} {inclusions : List Mapper.Inclusion}
    (distinct : found.Nodup) (noProblems : (lookUp names found inclusions).problems = []) :
    ∃ places, (lookUp names found inclusions).value = found ++ places ∧ (found ++ places).Nodup ∧
      List.Forall₂ (fun inclusion place => names.findIdx? (· == inclusion.name) = some place) inclusions places := by
  induction inclusions generalizing found with
  | nil => exact ⟨[], (List.append_nil found).symm, (List.append_nil found).symm ▸ distinct, .nil⟩
  | cons inclusion rest inductionHypothesis =>
      rw [lookUp] at noProblems ⊢
      cases place : names.findIdx? (· == inclusion.name) with
      | none =>
          rw [place] at noProblems
          cases noProblems
      | some index =>
          simp only [place] at noProblems ⊢
          split at noProblems
          · cases noProblems
          · next isNew =>
              rw [List.contains_iff_mem] at isNew
              rw [if_neg (by rwa [List.contains_iff_mem])]
              have extended : (found ++ [index]).Nodup := List.concat_eq_append ▸ distinct.concat isNew
              obtain ⟨places, value, allDistinct, inOrder⟩ := inductionHypothesis extended noProblems
              rw [List.append_assoc] at value allDistinct
              exact ⟨index :: places, value, allDistinct, .cons place inOrder⟩

end Inclusion

/-- The given mappers are those that a mapper names as included, once each. -/
structure Mapper.Includes (mapper : Mapper) (included : List Mapper) : Prop where
  inOrder : included.map (·.name) = mapper.inclusions.map (·.name)
  once : (mapper.inclusions.map (·.name)).Nodup

namespace Inclusion

variable {mappers : List Mapper}

/-- Names that are looked up at different places are different and are those of the mappers there. -/
theorem included_ok {inclusions : List Mapper.Inclusion} {places : List Nat} (distinct : places.Nodup)
    (inOrder : List.Forall₂ (fun inclusion place =>
      (mappers.map (·.name)).findIdx? (· == inclusion.name) = some place) inclusions places) :
    (places.filterMap fun place => mappers[place]?).map (·.name) = inclusions.map (·.name) ∧
      (inclusions.map (·.name)).Nodup := by
  induction inOrder with
  | nil => exact ⟨rfl, .nil⟩
  | @cons inclusion place inclusions places found others inductionHypothesis =>
      obtain ⟨notRepeated, distinct⟩ := List.nodup_cons.mp distinct
      obtain ⟨sameNames, once⟩ := inductionHypothesis distinct
      obtain ⟨inRange, isName, _⟩ := List.findIdx?_eq_some_iff_getElem.mp found
      rw [List.length_map] at inRange
      have isMapper : mappers[place].name = inclusion.name := by simpa using isName
      refine ⟨?_, List.nodup_cons.mpr ⟨?_, once⟩⟩
      · rw [List.filterMap_cons, List.getElem?_eq_getElem inRange]
        simp only [List.map_cons, isMapper, sameNames]
      · intro repeated
        obtain ⟨other, present, same⟩ := List.mem_map.mp repeated
        obtain ⟨otherPlace, isPlace, otherFound⟩ := forall₂_left others other present
        rw [same, found] at otherFound
        exact notRepeated (Option.some.inj otherFound ▸ isPlace)

theorem resolve_ok {inclusions : List (List Nat)} (resolved : resolve mappers = .ok inclusions) :
    (mappers.map (·.name)).Nodup ∧ List.Forall₂ (fun mapper places =>
      mapper.Includes (places.filterMap fun place => mappers[place]?)) mappers inclusions := by
  obtain ⟨found, checked, resolved⟩ := (bind_ok _ _ _).mp resolved
  obtain ⟨noProblems, rfl⟩ := Checked.toExcept_ok.mp checked
  obtain ⟨noneRepeated, noneUnknown⟩ := List.append_eq_nil_iff.mp noProblems
  refine ⟨(repeatedMappers_nil.mp noneRepeated).1, ?_⟩
  split at resolved
  · cases resolved
  · cases resolved
    rw [List.map_map, List.forall₂_map_right_iff, List.forall₂_same]
    intro mapper isMapper
    have clean := List.flatMap_eq_nil_iff.mp noneUnknown _ (List.mem_map_of_mem isMapper)
    obtain ⟨places, value, distinct, inOrder⟩ := lookUp_ok .nil clean
    rw [List.nil_append] at value distinct
    obtain ⟨sameNames, once⟩ := included_ok distinct inOrder
    rw [Function.comp_apply, value]
    exact ⟨sameNames, once⟩

end Inclusion

end ObjectMapping
