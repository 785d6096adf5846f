/-
This file looks up the mappers that mappers include. Inclusions must not lead back to a mapper, because
each generated struct holds the included ones.
-/

import ObjectMapping.Mapper.Declaration

namespace ObjectMapping.Inclusion

open Mapper

def inclusionProblem (location : Location) (problem : InclusionProblem) : Problem :=
  ⟨location, .inclusion problem⟩

/-- The mappers whose names were declared before. -/
def repeatedMappers (seen : List String) : List Mapper → List Problem
  | [] => []
  | mapper :: rest =>
      if seen.contains mapper.name then
        inclusionProblem mapper.location (.repeatedMapper mapper.name) ::
          repeatedMappers seen rest
      else
        repeatedMappers (mapper.name :: seen) rest

/-- The places of the mappers that the names stand for, behind those found before. -/
def lookUp (names : List String) (found : List Nat) : List Mapper.Inclusion → Checked (List Nat)
  | [] => ⟨found, []⟩
  | inclusion :: rest =>
      let complain (problem : InclusionProblem) : Checked (List Nat) :=
        let others := lookUp names found rest
        { others with problems := inclusionProblem inclusion.location problem :: others.problems }
      match names.findIdx? (· == inclusion.name) with
      | some index =>
          if found.contains index then complain (.repeatedInclusion inclusion.name)
          else lookUp names (found ++ [index]) rest
      | none => complain (.unknownMapper inclusion.name)

/-- The places that a place includes. -/
def includedBy (inclusions : List (List Nat)) (place : Nat) : List Nat := (inclusions[place]?).getD []

/-- Of the places that a place includes those that have not been entered. -/
def freshFrom (inclusions : List (List Nat)) (entered : List Nat) (place : Nat) : List Nat :=
  (includedBy inclusions place).filter fun next => !entered.contains next

/-- The inclusions of places that have not been entered. -/
def unentered (inclusions : List (List Nat)) (entered : List Nat) : List Nat :=
  inclusions.flatten.filter fun place => !entered.contains place

theorem freshFrom_unentered (inclusions : List (List Nat)) (entered : List Nat) (place : Nat) :
    (freshFrom inclusions entered place).Sublist (unentered inclusions entered) := by
  refine List.Sublist.filter _ ?_
  unfold includedBy
  cases found : inclusions[place]? with
  | none => exact List.nil_sublist _
  | some places => exact List.sublist_flatten_of_mem (List.mem_of_getElem? found)

/-- Each place that is entered leaves one inclusion fewer to be followed. -/
theorem unentered_append (inclusions : List (List Nat)) (entered : List Nat) (place : Nat) :
    (unentered inclusions (entered ++ freshFrom inclusions entered place)).length +
      (freshFrom inclusions entered place).length ≤ (unentered inclusions entered).length := by
  have among := freshFrom_unentered inclusions entered place
  generalize freshFrom inclusions entered place = fresh at among ⊢
  have stays : unentered inclusions (entered ++ fresh) =
      (unentered inclusions entered).filter fun place => !fresh.contains place := by
    simp only [unentered, List.filter_filter, List.contains_append, Bool.not_or, Bool.and_comm]
  have leaves : fresh.length ≤ (unentered inclusions entered).countP fun place => fresh.contains place := by
    rw [← List.countP_eq_length.mpr fun place present => List.contains_iff_mem.mpr present]
    exact among.countP_le
  have split := List.length_eq_countP_add_countP (fun place => fresh.contains place) (l := unentered inclusions entered)
  simp only [Bool.not_eq_true, Bool.decide_eq_false] at split
  rw [stays, ← List.countP_eq_length_filter]
  omega

/-- Searches a path of inclusions that leads back to the start. The stack holds places, each with the path to
it, the latest step first; a place counts as entered once it is on the stack. -/
def search (inclusions : List (List Nat)) (start : Nat) (entered : List Nat) :
    List (Nat × List Nat) → Option (List Nat)
  | [] => none
  | (current, path) :: stack =>
      if (includedBy inclusions current).contains start then some (start :: path).reverse
      else
        let fresh := freshFrom inclusions entered current
        search inclusions start (entered ++ fresh) ((fresh.map fun next => (next, next :: path)).reverse ++ stack)
  termination_by stack => (unentered inclusions entered).length + stack.length
  decreasing_by
    have fewer := unentered_append inclusions entered current
    simp only [List.length_append, List.length_reverse, List.length_map, List.length_cons]
    omega

/-- A path of inclusions from a mapper back to it. -/
def findCycle (inclusions : List (List Nat)) (start : Nat) : Option (List Nat) :=
  search inclusions start [] [(start, [start])]

/-- The problem of the first mapper that includes itself. -/
def cycleProblem? (mappers : List Mapper) (inclusions : List (List Nat)) : Option Problem :=
  mappers.zipIdx.findSome? fun (mapper, index) =>
    (findCycle inclusions index).map fun path =>
      inclusionProblem mapper.location
        (.cycle mapper.name (path.filterMap fun step => (mappers[step]?).map (·.name)))

/-- For each mapper the places of those that it includes. -/
def resolve (mappers : List Mapper) : Except (List Problem) (List (List Nat)) := do
  let names := mappers.map (·.name)
  let found := mappers.map fun mapper => lookUp names [] mapper.inclusions
  let inclusions ← Checked.toExcept
    ⟨found.map (·.value), repeatedMappers [] mappers ++ found.flatMap (·.problems)⟩
  match cycleProblem? mappers inclusions with
  | some problem => .error [problem]
  | none => .ok inclusions

end ObjectMapping.Inclusion
