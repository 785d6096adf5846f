/-
This file proves that the search for cycles of inclusions finds one if and only if there is one. What the search
has met leads on to what it has met, apart from the places that are still on the stack.
-/

import Mathlib.Data.List.Chain
import Mathlib.Logic.Relation
import ObjectMapping.Mapper.Inclusion

namespace ObjectMapping

open Relation

/-- The path leads step by step from the start back to it. -/
structure IsCycle {α : Type} (step : α → α → Prop) (start : α) (path : List α) : Prop where
  ends : ∃ between, path = start :: between ++ [start]
  steps : path.IsChain step

namespace IsCycle

variable {α β : Type} {step : α → α → Prop} {start : α} {path : List α}

theorem transGen (cycle : IsCycle step start path) : TransGen step start start := by
  obtain ⟨⟨between, rfl⟩, steps⟩ := cycle
  cases between with
  | nil => exact .single (List.isChain_pair.mp steps)
  | cons next rest =>
      obtain ⟨first, further⟩ := List.isChain_cons_cons.mp steps
      exact .head' first (List.relationReflTransGen_of_exists_isChain_cons (rest ++ [start]) further (by simp))

/-- Where steps are mapped to steps, cycles are mapped to cycles. -/
theorem map {other : β → β → Prop} (cycle : IsCycle step start path) {image : α → β}
    (keeps : ∀ source target, step source target → other (image source) (image target)) :
    IsCycle other (image start) (path.map image) := by
  obtain ⟨⟨between, rfl⟩, steps⟩ := cycle
  refine ⟨⟨between.map image, by simp⟩, ?_⟩
  exact List.isChain_map_of_isChain image keeps steps

end IsCycle

namespace Inclusion

/-- A place includes another. -/
def Leads (inclusions : List (List Nat)) (source target : Nat) : Prop := target ∈ includedBy inclusions source

variable {inclusions : List (List Nat)} {start : Nat}

/-- The path, with its latest step first, leads from the start to the place. -/
structure IsPathTo (inclusions : List (List Nat)) (start place : Nat) (path : List Nat) : Prop where
  last : path.head? = some place
  first : path.getLast? = some start
  steps : path.IsChain fun later earlier => Leads inclusions earlier later

theorem IsPathTo.step {place next : Nat} {path : List Nat} (isPath : IsPathTo inclusions start place path)
    (leads : Leads inclusions place next) : IsPathTo inclusions start next (next :: path) := by
  refine ⟨rfl, ?_, List.isChain_cons.mpr ⟨fun latest isLast => ?_, isPath.steps⟩⟩
  · rw [List.getLast?_cons, isPath.first, Option.getD_some]
  · rw [isPath.last] at isLast
    cases isLast
    exact leads

/-- A path that leads back to the start is a cycle. -/
theorem IsPathTo.isCycle {path : List Nat} (isPath : IsPathTo inclusions start start (start :: path))
    (moves : path ≠ []) : IsCycle (Leads inclusions) start (start :: path).reverse := by
  refine ⟨?_, List.isChain_reverse.mpr isPath.steps⟩
  have first := isPath.first
  rw [List.getLast?_cons_of_ne_nil moves] at first
  obtain ⟨between, rfl⟩ := List.getLast?_eq_some_iff.mp first
  exact ⟨between.reverse, by simp⟩

/-- Whatever the search finds is a cycle, as the stack holds paths from the start. -/
theorem search_isCycle {entered : List Nat} {stack : List (Nat × List Nat)}
    (paths : ∀ entry ∈ stack, IsPathTo inclusions start entry.1 entry.2) {found : List Nat}
    (search : search inclusions start entered stack = some found) : IsCycle (Leads inclusions) start found := by
  fun_induction Inclusion.search inclusions start entered stack with
  | case1 => cases search
  | case2 entered current path stack back =>
      cases search
      obtain ⟨isPath, _⟩ := List.forall_mem_cons.mp paths
      refine (isPath.step (List.contains_iff_mem.mp back)).isCycle fun empty => ?_
      rw [empty] at isPath
      cases isPath.last
  | case3 entered current path stack onwards fresh inductionHypothesis =>
      obtain ⟨isPath, others⟩ := List.forall_mem_cons.mp paths
      refine inductionHypothesis (List.forall_mem_append.mpr ⟨?_, others⟩) search
      simp only [List.mem_reverse, List.forall_mem_map]
      exact fun next isFresh => isPath.step (List.mem_of_mem_filter isFresh)

/-- The places lead to each other only, and not to the start. -/
def IsClosed (inclusions : List (List Nat)) (start : Nat) (places : List Nat) : Prop :=
  ∀ place ∈ places, ∀ next, Leads inclusions place next → next ∈ places ∧ next ≠ start

theorem IsClosed.not_transGen {places : List Nat} (closed : IsClosed inclusions start places)
    (among : start ∈ places) : ¬TransGen (Leads inclusions) start start := by
  have stays : ∀ place, TransGen (Leads inclusions) start place → place ∈ places ∧ place ≠ start := by
    intro place leads
    induction leads with
    | single step => exact closed start among _ step
    | tail _ step inductionHypothesis => exact closed _ inductionHypothesis.1 _ step
  exact fun cycle => (stays start cycle).2 rfl

/-- The start and the places that were entered are on the stack or lead to such places only. -/
def IsExplored (inclusions : List (List Nat)) (start : Nat) (entered : List Nat)
    (stack : List (Nat × List Nat)) : Prop :=
  ∀ place ∈ start :: entered, place ∈ stack.map Prod.fst ∨
    ∀ next, Leads inclusions place next → next ∈ entered ∧ next ≠ start

/-- Following up a place that does not lead to the start keeps what is known of the others. -/
theorem IsExplored.follow {entered : List Nat} {current : Nat} {path : List Nat} {stack : List (Nat × List Nat)}
    (explored : IsExplored inclusions start entered ((current, path) :: stack))
    (onwards : start ∉ includedBy inclusions current) :
    IsExplored inclusions start (entered ++ freshFrom inclusions entered current)
      (((freshFrom inclusions entered current).map fun next => (next, next :: path)).reverse ++ stack) := by
  intro place isMet
  rw [← List.cons_append] at isMet
  obtain before | isFresh := List.mem_append.mp isMet
  · obtain onStack | leads := explored place before
    · obtain rfl | below := List.mem_cons.mp onStack
      · refine .inr fun next isNext => ⟨?_, fun same => onwards (same ▸ isNext)⟩
        by_cases isEntered : next ∈ entered
        · exact List.mem_append_left _ isEntered
        · exact List.mem_append_right _ (List.mem_filter.mpr ⟨isNext, by simpa using isEntered⟩)
      · rw [List.map_append]
        exact .inl (List.mem_append_right _ below)
    · exact .inr fun next isNext => (leads next isNext).imp_left (List.mem_append_left _)
  · refine .inl ?_
    rw [List.map_append, List.map_reverse, List.map_map]
    exact List.mem_append_left _ (List.mem_reverse.mpr (List.mem_map.mpr ⟨place, isFresh, rfl⟩))

/-- Where the search finds nothing, all that was met is closed. -/
theorem search_closed {entered : List Nat} {stack : List (Nat × List Nat)}
    (explored : IsExplored inclusions start entered stack)
    (search : search inclusions start entered stack = none) :
    ∃ places, start ∈ places ∧ IsClosed inclusions start places := by
  fun_induction Inclusion.search inclusions start entered stack with
  | case1 entered =>
      refine ⟨start :: entered, List.mem_cons_self, fun place isMet next leads => ?_⟩
      obtain onStack | closed := explored place isMet
      · cases onStack
      · exact (closed next leads).imp_left (List.mem_cons_of_mem _)
  | case2 => cases search
  | case3 entered current path stack onwards fresh inductionHypothesis =>
      rw [List.contains_iff_mem] at onwards
      exact inductionHypothesis (explored.follow onwards) search

theorem findCycle_isCycle {path : List Nat} (found : findCycle inclusions start = some path) :
    IsCycle (Leads inclusions) start path := by
  refine search_isCycle (List.forall_mem_singleton.mpr ?_) found
  exact ⟨rfl, rfl, .singleton _⟩

theorem findCycle_none : findCycle inclusions start = none ↔ ¬TransGen (Leads inclusions) start start := by
  constructor
  · intro nothing
    have explored : IsExplored inclusions start [] [(start, [start])] := fun _ isMet => .inl isMet
    obtain ⟨places, among, closed⟩ := search_closed explored nothing
    exact closed.not_transGen among
  · intro acyclic
    refine Option.eq_none_iff_forall_ne_some.mpr fun path found => ?_
    exact acyclic (findCycle_isCycle found).transGen

end Inclusion

end ObjectMapping
