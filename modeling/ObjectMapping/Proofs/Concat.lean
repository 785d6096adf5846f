/-
This file says what an item behind a list adds to it: a place where the list can be split, and a value that
may have been there before.
-/

import Mathlib.Data.List.Induction
import Mathlib.Data.List.Nodup

namespace ObjectMapping

/-- Where a list with an item behind it is split, there is that item, or the list itself is split. -/
theorem concat_eq_split {α : Type} {items before after : List α} {last item : α} :
    items ++ [last] = before ++ item :: after ↔
      (items = before ∧ last = item ∧ after = []) ∨
        ∃ rest, after = rest ++ [last] ∧ items = before ++ item :: rest := by
  obtain rfl | ⟨rest, final, rfl⟩ := List.eq_nil_or_concat after
  · simp
  · rw [List.concat_eq_append, ← List.cons_append, ← List.append_assoc, List.append_singleton_inj]
    constructor
    · rintro ⟨rfl, rfl⟩
      exact .inr ⟨rest, rfl, rfl⟩
    · rintro (⟨_, _, absurd⟩ | ⟨other, sameAfter, rfl⟩)
      · simp at absurd
      · obtain ⟨rfl, rfl⟩ := List.append_singleton_inj.mp sameAfter
        exact ⟨rfl, rfl⟩

theorem exists_split_concat {α : Type} (holds : List α → α → Prop) (items : List α) (last : α) :
    (∃ before item after, items ++ [last] = before ++ item :: after ∧ holds before item) ↔
      (∃ before item after, items = before ++ item :: after ∧ holds before item) ∨ holds items last := by
  simp only [concat_eq_split]
  constructor
  · rintro ⟨before, item, after, ⟨rfl, rfl, rfl⟩ | ⟨rest, rfl, same⟩, found⟩
    · exact .inr found
    · exact .inl ⟨before, item, rest, same, found⟩
  · rintro (⟨before, item, rest, same, found⟩ | found)
    · exact ⟨before, item, rest ++ [last], .inr ⟨rest, rfl, same⟩, found⟩
    · exact ⟨items, last, [], .inl ⟨rfl, rfl, rfl⟩, found⟩

theorem forall_split_concat {α : Type} (holds : List α → α → Prop) (items : List α) (last : α) :
    (∀ before item after, items ++ [last] = before ++ item :: after → holds before item) ↔
      (∀ before item after, items = before ++ item :: after → holds before item) ∧ holds items last := by
  have negated := not_congr (exists_split_concat (fun before item => ¬ holds before item) items last)
  push Not at negated
  exact negated

variable {α : Type} [BEq α] [LawfulBEq α]

/-- An item is kept behind a list if it does not occur there. -/
theorem eraseDups_concat (items : List α) (item : α) [Decidable (item ∈ items)] :
    (items ++ [item]).eraseDups = if item ∈ items then items.eraseDups else items.eraseDups ++ [item] := by
  rw [List.eraseDups_append]
  split
  · next isOld => simp [List.removeAll, isOld]
  · next isNew => simp [List.removeAll, isNew, List.eraseDups_cons]

theorem eraseDups_nodup (items : List α) : items.eraseDups.Nodup := by
  classical
  induction items using List.reverseRecOn with
  | nil => exact .nil
  | append_singleton items item inductionHypothesis =>
      rw [eraseDups_concat]
      split
      · exact inductionHypothesis
      · next isNew =>
          rw [← List.concat_eq_append, List.nodup_concat, List.mem_eraseDups]
          exact ⟨isNew, inductionHypothesis⟩

end ObjectMapping
