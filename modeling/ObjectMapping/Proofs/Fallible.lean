/-
This file takes computations apart that can fail: a sequence succeeds when each of its steps does.
-/

import Mathlib.Data.List.Forall2
import ObjectMapping.Problem

namespace ObjectMapping

variable {α β ε : Type}

theorem ok_bind (value : α) (next : α → Except ε β) : Except.ok value >>= next = next value := rfl

/-- A step followed by another succeeds when both succeed. -/
theorem bind_ok (first : Except ε α) (next : α → Except ε β) (value : β) :
    first >>= next = .ok value ↔ ∃ middle, first = .ok middle ∧ next middle = .ok value := by
  cases first <;> simp [bind, Except.bind]

/-- A sequence fails at the first step or behind it. -/
theorem bind_error (first : Except ε α) (next : α → Except ε β) (fault : ε) :
    first >>= next = .error fault ↔
      first = .error fault ∨ ∃ middle, first = .ok middle ∧ next middle = .error fault := by
  cases first <;> simp [bind, Except.bind]

/-- Faults can be translated without touching a result. -/
theorem mapError_ok {δ : Type} {result : Except ε α} {translate : ε → δ} {value : α} :
    result.mapError translate = .ok value ↔ result = .ok value := by
  cases result <;> simp [Except.mapError]

/-- There is a value, and it passes the test. -/
def passes (test : α → Bool) : Except ε α → Bool
  | .ok value => test value
  | .error _ => false

theorem passes_iff {test : α → Bool} {result : Except ε α} :
    passes test result = true ↔ ∃ value, result = .ok value ∧ test value = true := by
  cases result <;> simp [passes]

/-- There is a fault, and it passes the test. -/
def refuses (test : ε → Bool) : Except ε α → Bool
  | .ok _ => false
  | .error fault => test fault

theorem refuses_iff {test : ε → Bool} {result : Except ε α} :
    refuses test result = true ↔ ∃ fault, result = .error fault ∧ test fault = true := by
  cases result <;> simp [refuses]

/-- A list is mapped without a fault when each of its items is. -/
theorem mapM_ok (step : α → Except ε β) (items : List α) (values : List β) :
    items.mapM step = .ok values ↔
      List.Forall₂ (fun item value => step item = .ok value) items values := by
  induction items generalizing values with
  | nil => simp [pure, Except.pure, eq_comm]
  | cons item rest inductionHypothesis =>
      simp only [List.mapM_cons, bind_ok, pure, Except.pure, Except.ok.injEq, inductionHypothesis]
      constructor
      · rintro ⟨value, found, others, allFound, same⟩
        rw [← same]
        exact .cons found allFound
      · rintro (_ | ⟨found, allFound⟩)
        exact ⟨_, found, _, allFound, rfl⟩

/-- A list can be mapped without a fault if and only if each of its items can. -/
theorem mapM_succeeds (step : α → Except ε β) (items : List α) :
    (∃ values, items.mapM step = .ok values) ↔ ∀ item ∈ items, ∃ value, step item = .ok value := by
  induction items with
  | nil => exact ⟨nofun, fun _ => ⟨[], rfl⟩⟩
  | cons item rest inductionHypothesis =>
      rw [List.forall_mem_cons, ← inductionHypothesis, List.mapM_cons]
      constructor
      · rintro ⟨values, mapped⟩
        obtain ⟨value, found, mapped⟩ := (bind_ok _ _ _).mp mapped
        obtain ⟨others, allFound, _⟩ := (bind_ok _ _ _).mp mapped
        exact ⟨⟨value, found⟩, others, allFound⟩
      · rintro ⟨⟨value, found⟩, others, allFound⟩
        exact ⟨value :: others, by rw [found, allFound]; rfl⟩

/-- An item of the one list has its counterpart in the other. -/
theorem forall₂_left {related : α → β → Prop} {items : List α} {values : List β}
    (pairs : List.Forall₂ related items values) : ∀ item ∈ items, ∃ value ∈ values, related item value := by
  induction pairs with
  | nil => nofun
  | cons pair _ inductionHypothesis =>
      refine List.forall_mem_cons.mpr ⟨⟨_, List.mem_cons_self, pair⟩, ?_⟩
      intro item present
      obtain ⟨value, inRest, isPair⟩ := inductionHypothesis item present
      exact ⟨value, List.mem_cons_of_mem _ inRest, isPair⟩

theorem forall₂_right {related : α → β → Prop} {items : List α} {values : List β}
    (pairs : List.Forall₂ related items values) : ∀ value ∈ values, ∃ item ∈ items, related item value :=
  forall₂_left pairs.flip

/-- Lists agree where each value agrees with its item. -/
theorem forall₂_map_eq {γ : Type} {related : α → β → Prop} {items : List α} {values : List β}
    (pairs : List.Forall₂ related items values) {left : α → γ} {right : β → γ}
    (agree : ∀ item value, related item value → right value = left item) : values.map right = items.map left := by
  rw [← List.forall₂_eq_eq_eq, List.forall₂_map_left_iff, List.forall₂_map_right_iff]
  exact pairs.flip.imp fun value item => agree item value

/-- Items that go with the values of one list go with those that go with these. -/
theorem forall₂_comp {γ : Type} {first : α → β → Prop} {second : β → γ → Prop} {items : List α} {values : List β}
    {answers : List γ} (pairs : List.Forall₂ first items values) (results : List.Forall₂ second values answers) :
    List.Forall₂ (fun item answer => ∃ value, first item value ∧ second value answer) items answers := by
  induction pairs generalizing answers with
  | nil =>
      cases results
      exact .nil
  | cons pair _ inductionHypothesis =>
      obtain _ | ⟨result, others⟩ := results
      exact .cons ⟨_, pair, result⟩ (inductionHypothesis others)

/-- Results for the pairs of two lists are results for the items of the first. -/
theorem forall₂_zipped {γ : Type} {related : α → β → Prop} {answered : α × β → γ → Prop} {items : List α}
    {values : List β} {answers : List γ} (pairs : List.Forall₂ related items values)
    (results : List.Forall₂ answered (items.zip values) answers) : List.Forall₂ (fun item answer =>
      ∃ value ∈ values, related item value ∧ answered (item, value) answer) items answers := by
  induction pairs generalizing answers with
  | nil =>
      cases results
      exact .nil
  | cons pair _ inductionHypothesis =>
      obtain _ | ⟨first, others⟩ := results
      refine .cons ⟨_, List.mem_cons_self, pair, first⟩ ((inductionHypothesis others).imp ?_)
      rintro item answer ⟨value, present, isPair, answers⟩
      exact ⟨value, List.mem_cons_of_mem _ present, isPair, answers⟩

/-- Items that all have a value keep it where those without one are left out. -/
theorem forall₂_filterMap {related : α → β → Prop} {items : List α} {values : List (Option β)}
    (pairs : List.Forall₂ (fun item value => ∃ found, value = some found ∧ related item found) items values) :
    List.Forall₂ related items (values.filterMap id) := by
  induction pairs with
  | nil => exact .nil
  | cons pair _ inductionHypothesis =>
      obtain ⟨found, rfl, isRelated⟩ := pair
      exact .cons isRelated inductionHypothesis

/-- Each value of a list that is mapped without a fault comes from an item. -/
theorem mapM_ok_mem {step : α → Except ε β} {items : List α} {values : List β}
    (mapped : items.mapM step = .ok values) {value : β} (member : value ∈ values) :
    ∃ item ∈ items, step item = .ok value :=
  forall₂_right ((mapM_ok _ _ _).mp mapped) value member

/-- A list is mapped to a value when each of its items is. -/
theorem mapM_some (step : α → Option β) (items : List α) (values : List β) :
    items.mapM step = some values ↔
      List.Forall₂ (fun item value => step item = some value) items values := by
  induction items generalizing values with
  | nil => simp [eq_comm]
  | cons item rest inductionHypothesis =>
      simp only [List.mapM_cons, Option.bind_eq_bind, Option.bind_eq_some_iff, Option.pure_def,
        Option.some.injEq, inductionHypothesis]
      constructor
      · rintro ⟨value, found, others, allFound, same⟩
        rw [← same]
        exact .cons found allFound
      · rintro (_ | ⟨found, allFound⟩)
        exact ⟨_, found, _, allFound, rfl⟩

/-- A list can be mapped to a value if and only if each of its items can. -/
theorem mapM_isSome (step : α → Option β) (items : List α) :
    (items.mapM step).isSome = true ↔ ∀ item ∈ items, (step item).isSome = true := by
  induction items with
  | nil => simp
  | cons item rest inductionHypothesis =>
      rw [List.forall_mem_cons, ← inductionHypothesis, List.mapM_cons]
      cases step item <;> cases rest.mapM step <;> simp

namespace Checked

/-- A checked value counts if no problems were met. -/
theorem toExcept_ok {checked : Checked α} {value : α} :
    checked.toExcept = .ok value ↔ checked.problems = [] ∧ checked.value = value := by
  rw [toExcept, ← List.isEmpty_iff]
  split
  · next none => simp [none]
  · next some => simp [some]

/-- What is refused has problems. -/
theorem toExcept_error {checked : Checked α} {problems : List Problem}
    (refused : checked.toExcept = .error problems) : problems ≠ [] := by
  rw [toExcept] at refused
  split at refused
  · cases refused
  · next some =>
      cases refused
      simpa using some

/-- A gathered value is one of the results. -/
theorem gather_mem {results : List (Except (List Problem) α)} {value : α}
    (member : value ∈ (gather results).value) : .ok value ∈ results := by
  induction results with
  | nil => cases member
  | cons result rest inductionHypothesis =>
      cases result with
      | error problems => exact List.mem_cons_of_mem _ (inductionHypothesis member)
      | ok first =>
          obtain rfl | inRest := List.mem_cons.mp member
          · exact List.mem_cons_self
          · exact List.mem_cons_of_mem _ (inductionHypothesis inRest)

/-- Where no item is refused without a problem and no problem is met, each item has its value. -/
theorem gather_map_ok {read : α → Except (List Problem) β} (items : List α)
    (explained : ∀ item problems, read item = .error problems → problems ≠ [])
    (noProblems : (gather (items.map read)).problems = []) :
    List.Forall₂ (fun item value => read item = .ok value) items (gather (items.map read)).value := by
  induction items with
  | nil => exact .nil
  | cons item rest inductionHypothesis =>
      rw [List.map_cons] at noProblems ⊢
      cases result : read item with
      | error problems =>
          rw [result] at noProblems
          obtain ⟨none, _⟩ := List.append_eq_nil_iff.mp noProblems
          exact absurd none (explained item problems result)
      | ok value =>
          rw [result] at noProblems
          exact .cons result (inductionHypothesis noProblems)

end Checked

end ObjectMapping
