/-
This file proves that inclusions are checked exactly: they are accepted if and only if names are different and
known, no mapper is included twice and no mapper includes itself, be it through others. Cycles among the names of
mappers are cycles among the places that the names are looked up at.
-/

import Mathlib.Order.WellFoundedSet
import ObjectMapping.Proofs.Mapper.Cycle
import ObjectMapping.Proofs.Mapper.Inclusion

namespace ObjectMapping

open Relation

/-- Steps between finitely many points that never lead back come to an end. -/
theorem wellFounded_of_acyclic {α : Type} {step : α → α → Prop} {points : Set α} (finite : points.Finite)
    (inside : ∀ source target, step source target → source ∈ points ∧ target ∈ points)
    (acyclic : ∀ point, ¬TransGen step point point) : WellFounded fun target source => step source target := by
  have isStrict : IsStrictOrder α fun target source => TransGen step source target :=
    { irrefl := acyclic, trans := fun _ _ _ first second => second.trans first }
  refine Subrelation.wf ?_ (Set.wellFoundedOn_iff.mp (finite.wellFoundedOn (r := fun target source =>
    TransGen step source target)))
  intro target source leads
  obtain ⟨isSource, isTarget⟩ := inside source target leads
  exact ⟨.single leads, isTarget, isSource⟩

/-- Each point of a cycle is reached by a step. -/
theorem IsCycle.reached {α : Type} {step : α → α → Prop} {start : α} {path : List α}
    (cycle : IsCycle step start path) : ∀ point ∈ path, ∃ before, step before point := by
  have targets (points : List α) : ∀ first, (first :: points).IsChain step →
      ∀ point ∈ points, ∃ before, step before point := by
    induction points with
    | nil => nofun
    | cons second rest inductionHypothesis =>
        intro first steps
        obtain ⟨isStep, further⟩ := List.isChain_cons_cons.mp steps
        exact List.forall_mem_cons.mpr ⟨⟨first, isStep⟩, inductionHypothesis second further⟩
  obtain ⟨⟨between, rfl⟩, steps⟩ := cycle
  have others := targets (between ++ [start]) start steps
  exact List.forall_mem_cons.mpr ⟨others start (by simp), others⟩

namespace Inclusion

/-- One of the mappers goes by the first name and includes the second. -/
def IncludesNamed (mappers : List Mapper) (source target : String) : Prop :=
  ∃ mapper ∈ mappers, mapper.name = source ∧ ∃ inclusion ∈ mapper.inclusions, inclusion.name = target

/-- The mappers go by different names, and each includes mappers among them, none of them twice. -/
structure AreKnown (mappers : List Mapper) : Prop where
  distinct : (mappers.map (·.name)).Nodup
  declared : ∀ mapper ∈ mappers, ∀ inclusion ∈ mapper.inclusions, inclusion.name ∈ mappers.map (·.name)
  once : ∀ mapper ∈ mappers, (mapper.inclusions.map (·.name)).Nodup

/-- The places that the inclusions of each mapper are looked up at. -/
def placesOf (mappers : List Mapper) : List (List Nat) :=
  mappers.map fun mapper => (lookUp (mappers.map (·.name)) [] mapper.inclusions).value

/-- A name is looked up at the place where it stands. -/
theorem findIdx?_name {names : List String} (distinct : names.Nodup) {name : String} {place : Nat} :
    names.findIdx? (· == name) = some place ↔ names[place]? = some name := by
  rw [List.findIdx?_eq_some_iff_getElem, List.getElem?_eq_some_iff]
  refine exists_congr fun inRange => ⟨fun found => beq_iff_eq.mp found.1, fun same => ?_⟩
  refine ⟨beq_iff_eq.mpr same, fun earlier below isName => ?_⟩
  have samePlace := (distinct.getElem_inj_iff).mp ((beq_iff_eq.mp isName).trans same.symm)
  omega

/-- Known names that are not repeated, neither here nor behind what was found before, are no problem. -/
theorem lookUp_clean {names : List String} {found : List Nat} {inclusions : List Mapper.Inclusion}
    (declared : ∀ inclusion ∈ inclusions, inclusion.name ∈ names) (once : (inclusions.map (·.name)).Nodup)
    (isNew : ∀ inclusion ∈ inclusions, ∀ place ∈ found, names[place]? ≠ some inclusion.name) :
    (lookUp names found inclusions).problems = [] := by
  induction inclusions generalizing found with
  | nil => rfl
  | cons inclusion rest inductionHypothesis =>
      obtain ⟨isDeclared, declared⟩ := List.forall_mem_cons.mp declared
      obtain ⟨notRepeated, once⟩ := List.nodup_cons.mp once
      obtain ⟨isNew, othersNew⟩ := List.forall_mem_cons.mp isNew
      obtain ⟨place, isPlace⟩ : ∃ place, names.findIdx? (· == inclusion.name) = some place := by
        rw [← Option.isSome_iff_exists, List.findIdx?_isSome, List.any_eq_true]
        exact ⟨inclusion.name, isDeclared, beq_self_eq_true _⟩
      have atPlace : names[place]? = some inclusion.name := by
        obtain ⟨inRange, isName, _⟩ := List.findIdx?_eq_some_iff_getElem.mp isPlace
        rw [List.getElem?_eq_getElem inRange, beq_iff_eq.mp isName]
      have notFound : ¬found.contains place = true := fun isFound =>
        isNew place (List.contains_iff_mem.mp isFound) atPlace
      rw [lookUp]
      simp only [isPlace, if_neg notFound]
      refine inductionHypothesis declared once fun other present => List.forall_mem_append.mpr
        ⟨othersNew other present, List.forall_mem_singleton.mpr fun samePlace => notRepeated ?_⟩
      rw [atPlace] at samePlace
      exact List.mem_map.mpr ⟨other, present, (Option.some.inj samePlace).symm⟩

variable {mappers : List Mapper}

theorem AreKnown.clean (known : AreKnown mappers) : ∀ mapper ∈ mappers,
    (lookUp (mappers.map (·.name)) [] mapper.inclusions).problems = [] :=
  fun mapper isMapper => lookUp_clean (known.declared mapper isMapper) (known.once mapper isMapper) fun _ _ => nofun

/-- Where names are known, it is a cycle alone that keeps inclusions from being accepted. -/
theorem resolve_known (known : AreKnown mappers) : resolve mappers =
    match cycleProblem? mappers (placesOf mappers) with
    | some problem => .error [problem]
    | none => .ok (placesOf mappers) := by
  have noneRepeated : repeatedMappers [] mappers = [] := repeatedMappers_nil.mpr ⟨known.distinct, fun _ _ => nofun⟩
  have noneUnknown : (mappers.map fun mapper =>
      lookUp (mappers.map (·.name)) [] mapper.inclusions).flatMap (·.problems) = [] :=
    List.flatMap_eq_nil_iff.mpr (List.forall_mem_map.mpr known.clean)
  simp only [resolve, noneRepeated, noneUnknown, List.append_nil, Checked.toExcept, List.isEmpty_nil, if_true,
    ok_bind, List.map_map]
  rfl

theorem resolve_isKnown {inclusions : List (List Nat)} (resolved : resolve mappers = .ok inclusions) :
    AreKnown mappers := by
  obtain ⟨distinct, inOrder⟩ := resolve_ok resolved
  refine ⟨distinct, fun mapper isMapper inclusion isInclusion => ?_, fun mapper isMapper => ?_⟩
  · obtain ⟨places, _, includes⟩ := forall₂_left inOrder mapper isMapper
    have isIncluded := List.mem_map_of_mem (f := fun (one : Mapper.Inclusion) => one.name) isInclusion
    rw [← includes.inOrder] at isIncluded
    obtain ⟨other, present, same⟩ := List.mem_map.mp isIncluded
    obtain ⟨place, _, isThere⟩ := List.mem_filterMap.mp present
    exact List.mem_map.mpr ⟨other, List.mem_of_getElem? isThere, same⟩
  · obtain ⟨places, _, includes⟩ := forall₂_left inOrder mapper isMapper
    exact includes.once

namespace AreKnown

variable (known : AreKnown mappers)
include known

/-- The names of a mapper's inclusions stand at the places of its inclusions, in order. -/
theorem inOrder {mapper : Mapper} (isMapper : mapper ∈ mappers) :
    List.Forall₂ (fun inclusion place => (mappers[place]?).map (·.name) = some inclusion.name)
      mapper.inclusions (lookUp (mappers.map (·.name)) [] mapper.inclusions).value := by
  obtain ⟨places, value, _, inOrder⟩ := lookUp_ok .nil (known.clean mapper isMapper)
  rw [value, List.nil_append]
  refine inOrder.imp fun inclusion place found => ?_
  rwa [findIdx?_name known.distinct, List.getElem?_map] at found

theorem leads_iff {source target : Nat} : Leads (placesOf mappers) source target ↔ ∃ mapper other,
    mappers[source]? = some mapper ∧ mappers[target]? = some other ∧
      ∃ inclusion ∈ mapper.inclusions, inclusion.name = other.name := by
  unfold Leads includedBy placesOf
  rw [List.getElem?_map]
  constructor
  · intro leads
    cases atSource : mappers[source]? with
    | none =>
        rw [atSource] at leads
        cases leads
    | some mapper =>
        rw [atSource] at leads
        obtain ⟨inclusion, present, atTarget⟩ :=
          forall₂_right (known.inOrder (List.mem_of_getElem? atSource)) target leads
        obtain ⟨other, isOther, same⟩ := Option.map_eq_some_iff.mp atTarget
        exact ⟨mapper, other, rfl, isOther, inclusion, present, same.symm⟩
  · rintro ⟨mapper, other, atSource, atTarget, inclusion, present, same⟩
    obtain ⟨place, isPlace, atPlace⟩ :=
      forall₂_left (known.inOrder (List.mem_of_getElem? atSource)) inclusion present
    -- Different names stand at different places, so that the name is looked up at the target.
    have samePlace : place = target := by
      have atNames : (mappers.map (·.name))[place]? = (mappers.map (·.name))[target]? := by
        rw [List.getElem?_map, List.getElem?_map, atPlace, atTarget, same, Option.map_some]
      have inRange : place < (mappers.map (·.name)).length := by
        rw [List.length_map]
        obtain ⟨_, isThere, _⟩ := Option.map_eq_some_iff.mp atPlace
        exact (List.getElem?_eq_some_iff.mp isThere).1
      exact (List.getElem?_inj inRange known.distinct).mp atNames
    rw [atSource]
    exact samePlace ▸ isPlace

end AreKnown

/-- The name of the mapper at a place. -/
def nameAt (mappers : List Mapper) (place : Nat) : String := ((mappers[place]?).map (·.name)).getD ""

/-- The place where a name is looked up. -/
def placeOf (mappers : List Mapper) (name : String) : Nat := ((mappers.map (·.name)).findIdx? (· == name)).getD 0

theorem nameAt_eq {mapper : Mapper} {place : Nat} (atPlace : mappers[place]? = some mapper) :
    nameAt mappers place = mapper.name := by
  rw [nameAt, atPlace, Option.map_some, Option.getD_some]

namespace AreKnown

variable (known : AreKnown mappers)
include known

theorem includesNamed {source target : Nat} (leads : Leads (placesOf mappers) source target) :
    IncludesNamed mappers (nameAt mappers source) (nameAt mappers target) := by
  obtain ⟨mapper, other, atSource, atTarget, inclusion, present, same⟩ := known.leads_iff.mp leads
  exact ⟨mapper, List.mem_of_getElem? atSource, (nameAt_eq atSource).symm, inclusion, present,
    same.trans (nameAt_eq atTarget).symm⟩

theorem placeOf_name {mapper : Mapper} {place : Nat} (atPlace : mappers[place]? = some mapper) :
    placeOf mappers mapper.name = place := by
  have found : (mappers.map (·.name)).findIdx? (· == mapper.name) = some place := by
    rw [findIdx?_name known.distinct, List.getElem?_map, atPlace, Option.map_some]
  rw [placeOf, found, Option.getD_some]

theorem leads {source target : String} (includes : IncludesNamed mappers source target) :
    Leads (placesOf mappers) (placeOf mappers source) (placeOf mappers target) := by
  obtain ⟨mapper, isMapper, rfl, inclusion, present, rfl⟩ := includes
  obtain ⟨other, isOther, same⟩ := List.mem_map.mp (known.declared mapper isMapper inclusion present)
  obtain ⟨place, atPlace⟩ := List.getElem?_of_mem isMapper
  obtain ⟨otherPlace, atOther⟩ := List.getElem?_of_mem isOther
  rw [← same, known.placeOf_name atPlace, known.placeOf_name atOther]
  exact known.leads_iff.mpr ⟨mapper, other, atPlace, atOther, inclusion, present, same.symm⟩

/-- A mapper includes itself by name if and only if it does so by place. -/
theorem transGen_iff {mapper : Mapper} {place : Nat} (atPlace : mappers[place]? = some mapper) :
    TransGen (IncludesNamed mappers) mapper.name mapper.name ↔ TransGen (Leads (placesOf mappers)) place place := by
  constructor
  · intro named
    rw [← known.placeOf_name atPlace]
    exact named.lift (placeOf mappers) fun _ _ => known.leads
  · intro placed
    rw [← nameAt_eq atPlace]
    exact placed.lift (nameAt mappers) fun _ _ => known.includesNamed

/-- Without a cycle of names there is no cycle of places. -/
theorem acyclic_places (acyclic : ∀ name, ¬TransGen (IncludesNamed mappers) name name) (place : Nat) :
    ¬TransGen (Leads (placesOf mappers)) place place := fun placed =>
  acyclic (nameAt mappers place) (placed.lift (nameAt mappers) fun _ _ => known.includesNamed)

theorem findCycle_names {mapper : Mapper} {place : Nat} (atPlace : mappers[place]? = some mapper)
    {path : List Nat} (found : findCycle (placesOf mappers) place = some path) :
    IsCycle (IncludesNamed mappers) mapper.name
      (path.filterMap fun step => (mappers[step]?).map (·.name)) := by
  have cycle := findCycle_isCycle found
  have named : (path.filterMap fun step => (mappers[step]?).map (·.name)) = path.map (nameAt mappers) := by
    rw [← List.filterMap_eq_map]
    refine List.filterMap_congr fun step isStep => ?_
    obtain ⟨before, leads⟩ := cycle.reached step isStep
    obtain ⟨_, other, _, atStep, _⟩ := known.leads_iff.mp leads
    rw [atStep, Option.map_some, Function.comp_apply, nameAt_eq atStep]
  rw [named, ← nameAt_eq atPlace]
  exact cycle.map fun _ _ => known.includesNamed

end AreKnown

theorem cycleProblem?_none {inclusions : List (List Nat)} : cycleProblem? mappers inclusions = none ↔
    ∀ place mapper, mappers[place]? = some mapper → findCycle inclusions place = none := by
  rw [cycleProblem?, List.findSome?_eq_none_iff]
  constructor
  · intro nothing place mapper atPlace
    exact Option.map_eq_none_iff.mp (nothing (mapper, place) (List.mem_zipIdx_iff_getElem?.mpr atPlace))
  · rintro nothing ⟨mapper, place⟩ isThere
    exact Option.map_eq_none_iff.mpr (nothing place mapper (List.mem_zipIdx_iff_getElem?.mp isThere))

/-- The problem is that of the first mapper for which a cycle is found. -/
theorem cycleProblem?_some {inclusions : List (List Nat)} {problem : Problem}
    (found : cycleProblem? mappers inclusions = some problem) : ∃ before mapper after path,
      mappers = before ++ mapper :: after ∧ findCycle inclusions before.length = some path ∧
        (∀ place < before.length, findCycle inclusions place = none) ∧
          problem = inclusionProblem mapper.location
            (.cycle mapper.name (path.filterMap fun step => (mappers[step]?).map (·.name))) := by
  obtain ⟨front, ⟨mapper, place⟩, back, split, isFound, notBefore⟩ := List.findSome?_eq_some_iff.mp found
  obtain ⟨before, others, rfl, rfl, behind⟩ := List.zipIdx_eq_append_iff.mp split
  obtain ⟨_, after, rfl, same, _⟩ := List.zipIdx_eq_cons_iff.mp behind.symm
  cases same
  rw [Nat.zero_add] at isFound
  obtain ⟨path, isPath, rfl⟩ := Option.map_eq_some_iff.mp isFound
  refine ⟨before, mapper, after, path, rfl, isPath, fun place below => ?_, rfl⟩
  have isThere : (before[place], place) ∈ before.zipIdx :=
    List.mem_zipIdx_iff_getElem?.mpr (List.getElem?_eq_getElem below)
  exact Option.map_eq_none_iff.mp (notBefore _ isThere)

/-- Inclusions are checked exactly. -/
structure ChecksExactly (mappers : List Mapper) : Prop where
  accepts : (∃ inclusions, resolve mappers = .ok inclusions) ↔
    AreKnown mappers ∧ ∀ name, ¬TransGen (IncludesNamed mappers) name name
  /-- What is accepted are the places of the inclusions of each mapper, in order. -/
  inOrder : ∀ inclusions, resolve mappers = .ok inclusions → List.Forall₂ (fun mapper places =>
    List.Forall₂ (fun inclusion place => (mappers[place]?).map (·.name) = some inclusion.name)
      mapper.inclusions places) mappers inclusions
  wellFounded : ∀ inclusions, resolve mappers = .ok inclusions →
    WellFounded fun included mapper => Leads inclusions mapper included
  /-- Where cycles are all that is wrong, the first mapper on a cycle is named, with a path back to it. -/
  refuses : AreKnown mappers → ∀ name, TransGen (IncludesNamed mappers) name name → ∃ before mapper after path,
    mappers = before ++ mapper :: after ∧ IsCycle (IncludesNamed mappers) mapper.name path ∧
      (∀ earlier ∈ before, ¬TransGen (IncludesNamed mappers) earlier.name earlier.name) ∧
        resolve mappers = .error [⟨mapper.location, .inclusion (.cycle mapper.name path)⟩]

/-- A cycle through the start is found if and only if there is one. -/
structure FindsCycle (inclusions : List (List Nat)) (start : Nat) : Prop where
  found : (∃ path, findCycle inclusions start = some path) ↔ TransGen (Leads inclusions) start start
  isCycle : ∀ path, findCycle inclusions start = some path → IsCycle (Leads inclusions) start path

theorem findCycle_finds (inclusions : List (List Nat)) (start : Nat) : FindsCycle inclusions start where
  found := by rw [← Option.isSome_iff_exists, ← not_iff_not, Option.not_isSome_iff_eq_none, findCycle_none]
  isCycle _ := findCycle_isCycle

/-- What is accepted are the places of known mappers, with no cycle among them. -/
theorem resolve_accepted {inclusions : List (List Nat)} (resolved : resolve mappers = .ok inclusions) :
    AreKnown mappers ∧ inclusions = placesOf mappers ∧ cycleProblem? mappers inclusions = none := by
  have known := resolve_isKnown resolved
  rw [resolve_known known] at resolved
  split at resolved
  · cases resolved
  · next nothing =>
      cases resolved
      exact ⟨known, rfl, nothing⟩

/-- No cycle of names is left where none is found from any place. -/
theorem AreKnown.acyclic (known : AreKnown mappers) (nothing : cycleProblem? mappers (placesOf mappers) = none)
    (name : String) : ¬TransGen (IncludesNamed mappers) name name := by
  intro cycle
  obtain ⟨_, ⟨mapper, isMapper, rfl, _⟩, _⟩ := TransGen.head'_iff.mp cycle
  obtain ⟨place, atPlace⟩ := List.getElem?_of_mem isMapper
  exact findCycle_none.mp (cycleProblem?_none.mp nothing place mapper atPlace) ((known.transGen_iff atPlace).mp cycle)

/-- Inclusions are checked exactly, and so is every start of the search. -/
theorem resolve_checksExactly (mappers : List Mapper) : ChecksExactly mappers ∧
    ∀ inclusions start, FindsCycle inclusions start := by
  refine ⟨⟨?accepts, ?inOrder, ?wellFounded, ?refuses⟩, findCycle_finds⟩
  case accepts =>
    constructor
    · rintro ⟨inclusions, resolved⟩
      obtain ⟨known, rfl, nothing⟩ := resolve_accepted resolved
      exact ⟨known, known.acyclic nothing⟩
    · rintro ⟨known, acyclic⟩
      have nothing : cycleProblem? mappers (placesOf mappers) = none :=
        cycleProblem?_none.mpr fun place _ _ => findCycle_none.mpr (known.acyclic_places acyclic place)
      exact ⟨placesOf mappers, by rw [resolve_known known, nothing]⟩
  case inOrder =>
    intro inclusions resolved
    obtain ⟨known, rfl, _⟩ := resolve_accepted resolved
    exact List.forall₂_map_right_iff.mpr (List.forall₂_same.mpr fun mapper => known.inOrder)
  case wellFounded =>
    intro inclusions resolved
    obtain ⟨known, rfl, nothing⟩ := resolve_accepted resolved
    refine wellFounded_of_acyclic (Set.finite_Iio mappers.length) (fun source target leads => ?_)
      (known.acyclic_places (known.acyclic nothing))
    obtain ⟨_, _, atSource, atTarget, _⟩ := known.leads_iff.mp leads
    exact ⟨(List.getElem?_eq_some_iff.mp atSource).1, (List.getElem?_eq_some_iff.mp atTarget).1⟩
  case refuses =>
    intro known name cycle
    cases found : cycleProblem? mappers (placesOf mappers) with
    | none => exact absurd cycle (known.acyclic found name)
    | some problem =>
        obtain ⟨before, mapper, after, path, rfl, isPath, notBefore, rfl⟩ := cycleProblem?_some found
        refine ⟨before, mapper, after, _, rfl, known.findCycle_names (by simp) isPath,
          fun earlier isEarlier cycle => ?_, by rw [resolve_known known, found]; rfl⟩
        obtain ⟨place, atPlace⟩ := List.getElem?_of_mem isEarlier
        have below := (List.getElem?_eq_some_iff.mp atPlace).1
        refine findCycle_none.mp (notBefore place below) ((known.transGen_iff ?_).mp cycle)
        rw [List.getElem?_append_left below, atPlace]

end Inclusion

end ObjectMapping
