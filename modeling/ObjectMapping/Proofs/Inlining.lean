/-
This file proves what inlining makes of a closure: every word of the body that is a parameter becomes the
parameter of the mapping method at its place, all words at once, and two parameters become one name only
where the name that the element keeps is also that of a parameter of the method.
-/

import ObjectMapping.Directive
import ObjectMapping.Proofs.Text.Words

namespace ObjectMapping

open Text

namespace Closure

/-- The parameter gives way to the one at its place in the mapping method; blanks do not, nor does the first
parameter where it is kept. -/
def RenamesTo (closure : Closure) (methodParams : List String) (keepFirst : Bool)
    (param target : String) : Prop :=
  param ≠ "_" ∧ ∃ index, (keepFirst = true → index ≠ 0) ∧
    closure.params[index]? = some param ∧ methodParams[index]? = some target

/-- The parameters that bind something are different names. -/
def HasDistinctParams (closure : Closure) : Prop := (closure.params.filter (· != "_")).Nodup

instance (closure : Closure) : Decidable closure.HasDistinctParams := inferInstanceAs (Decidable (List.Nodup _))

/-- The name that inlining gives a parameter. -/
def renamed (closure : Closure) (methodParams : List String) (keepFirst : Bool) (param : String) : String :=
  ((closure.renames methodParams keepFirst).find? (·.word == param.toList)).elim param fun rename =>
    String.ofList rename.replacement

variable {closure : Closure} {methodParams : List String} {keepFirst : Bool}

/-- The pairs behind the first few are those at the places behind. -/
theorem mem_drop_zip {params targets : List String} {count : Nat} {param target : String} :
    (param, target) ∈ (params.zip targets).drop count ↔
      ∃ index, count ≤ index ∧ params[index]? = some param ∧ targets[index]? = some target := by
  simp only [List.mem_iff_getElem?, List.getElem?_drop, List.getElem?_zip_eq_some]
  constructor
  · rintro ⟨place, found⟩
    exact ⟨count + place, Nat.le_add_right count place, found⟩
  · rintro ⟨index, behind, found⟩
    refine ⟨index - count, ?_⟩
    rwa [Nat.add_sub_cancel' behind]

/-- A replacement is made for each parameter that is renamed to another name. -/
theorem mem_renames_iff {rename : WordRename} : rename ∈ closure.renames methodParams keepFirst ↔
    ∃ param target, closure.RenamesTo methodParams keepFirst param target ∧ param ≠ target ∧
      rename = ⟨param.toList, target.toList⟩ := by
  have notKept (index : Nat) : (if keepFirst then 1 else 0) ≤ index ↔ (keepFirst = true → index ≠ 0) := by
    cases keepFirst with
    | true => simpa using Nat.one_le_iff_ne_zero
    | false => simp
  simp only [renames, List.mem_map, List.mem_filter, Prod.exists, mem_drop_zip, notKept, Bool.and_eq_true,
    bne_iff_ne]
  constructor
  · rintro ⟨param, target, ⟨atPlace, bound, differs⟩, rfl⟩
    exact ⟨param, target, ⟨bound, atPlace⟩, differs, rfl⟩
  · rintro ⟨param, target, ⟨bound, atPlace⟩, differs, rfl⟩
    exact ⟨param, target, ⟨atPlace, bound, differs⟩, rfl⟩

/-- A parameter that binds something stands at one place. -/
theorem HasDistinctParams.place (distinct : closure.HasDistinctParams) {param : String} (bound : param ≠ "_")
    {index other : Nat} (here : closure.params[index]? = some param)
    (there : closure.params[other]? = some param) : index = other := by
  have differ := List.pairwise_iff_getElem.mp (List.pairwise_filter.mp distinct)
  obtain ⟨inRange, rfl⟩ := List.getElem?_eq_some_iff.mp here
  obtain ⟨otherInRange, same⟩ := List.getElem?_eq_some_iff.mp there
  have isBound : (closure.params[index] != "_") = true := bne_iff_ne.mpr bound
  rcases Nat.lt_trichotomy index other with before | same | behind
  · exact absurd same.symm (differ _ _ inRange otherInRange before isBound (same ▸ isBound))
  · exact same
  · exact absurd same (differ _ _ otherInRange inRange behind (same ▸ isBound) isBound)

theorem RenamesTo.unique (distinct : closure.HasDistinctParams) {param target other : String}
    (renamesTo : closure.RenamesTo methodParams keepFirst param target)
    (alsoTo : closure.RenamesTo methodParams keepFirst param other) : target = other := by
  obtain ⟨bound, index, _, isParam, isTarget⟩ := renamesTo
  obtain ⟨_, place, _, alsoParam, isOther⟩ := alsoTo
  obtain rfl := distinct.place bound isParam alsoParam
  exact Option.some.inj (isTarget.symm.trans isOther)

/-- A parameter that gives way gets the name of the one that it gives way to. -/
theorem RenamesTo.renamed (distinct : closure.HasDistinctParams) {param target : String}
    (renamesTo : closure.RenamesTo methodParams keepFirst param target) :
    closure.renamed methodParams keepFirst param = target := by
  rw [Closure.renamed]
  cases found : (closure.renames methodParams keepFirst).find? (·.word == param.toList) with
  | none =>
      by_contra differs
      have absent := List.find?_eq_none.mp found _ (mem_renames_iff.mpr ⟨param, target, renamesTo, differs, rfl⟩)
      simp at absent
  | some rename =>
      obtain ⟨other, otherTarget, alsoTo, _, rfl⟩ := mem_renames_iff.mp (List.mem_of_find?_eq_some found)
      obtain rfl : other = param := String.toList_injective (eq_of_beq (List.find?_some found :))
      rw [Option.elim_some, String.ofList_toList, renamesTo.unique distinct alsoTo]

/-- All other names stay. -/
theorem renamed_kept {name : String}
    (kept : ∀ target, ¬closure.RenamesTo methodParams keepFirst name target) :
    closure.renamed methodParams keepFirst name = name := by
  rw [renamed]
  cases found : (closure.renames methodParams keepFirst).find? (·.word == name.toList) with
  | none => rfl
  | some rename =>
      obtain ⟨other, target, renamesTo, _, rfl⟩ := mem_renames_iff.mp (List.mem_of_find?_eq_some found)
      obtain rfl : other = name := String.toList_injective (eq_of_beq (List.find?_some found :))
      exact absurd renamesTo (kept target)

/-- A parameter is the element, whose name is kept, or it gives way to a parameter of the mapping method, as
there are no fewer of these. -/
theorem param_renamed (distinct : closure.HasDistinctParams)
    (enough : closure.params.length ≤ methodParams.length) {param : String} (present : param ∈ closure.params)
    (bound : param ≠ "_") :
    (keepFirst = true ∧ closure.firstParam? = some param ∧
        closure.renamed methodParams keepFirst param = param) ∨
      closure.RenamesTo methodParams keepFirst param (closure.renamed methodParams keepFirst param) := by
  obtain ⟨index, isParam⟩ := List.mem_iff_getElem?.mp present
  by_cases kept : keepFirst = true ∧ index = 0
  · obtain ⟨keeps, rfl⟩ := kept
    refine .inl ⟨keeps, ?_, renamed_kept ?_⟩
    · rw [firstParam?, List.head?_eq_getElem?, isParam, Option.filter_some, if_pos (bne_iff_ne.mpr bound)]
    · rintro target ⟨_, place, notKept, alsoParam, _⟩
      exact notKept keeps (distinct.place bound alsoParam isParam)
  · obtain ⟨inRange, _⟩ := List.getElem?_eq_some_iff.mp isParam
    have isTarget := List.getElem?_eq_getElem (Nat.lt_of_lt_of_le inRange enough)
    have renamesTo : closure.RenamesTo methodParams keepFirst param _ :=
      ⟨bound, index, fun keeps isFirst => kept ⟨keeps, isFirst⟩, isParam, isTarget⟩
    rw [renamesTo.renamed distinct]
    exact .inr renamesTo

/-- Parameters that give way to one parameter of the mapping method stand at one place. -/
theorem RenamesTo.param_unique (methodDistinct : methodParams.Nodup) {param other target : String}
    (renamesTo : closure.RenamesTo methodParams keepFirst param target)
    (alsoTo : closure.RenamesTo methodParams keepFirst other target) : param = other := by
  obtain ⟨_, index, _, isParam, isTarget⟩ := renamesTo
  obtain ⟨_, place, _, isOther, alsoTarget⟩ := alsoTo
  obtain ⟨inRange, _⟩ := List.getElem?_eq_some_iff.mp isTarget
  obtain rfl := (List.getElem?_inj inRange methodDistinct).mp (isTarget.trans alsoTarget.symm)
  exact Option.some.inj (isParam.symm.trans isOther)

/-- The element whose name is kept does not give way to a parameter of the mapping method. -/
theorem firstParam?_kept (distinct : closure.HasDistinctParams) {element target : String}
    (isElement : closure.firstParam? = some element) :
    ¬closure.RenamesTo methodParams true element target := by
  rintro ⟨bound, index, notKept, isParam, _⟩
  obtain ⟨isFirst, _⟩ := Option.filter_eq_some_iff.mp isElement
  rw [List.head?_eq_getElem?] at isFirst
  exact notKept rfl (distinct.place bound isParam isFirst)

/-- Two parameters of a closure become one name only if the element keeps a name that a further parameter is
renamed to. -/
theorem renamed_injective_iff (closure : Closure) (methodParams : List String) (keepFirst : Bool)
    (distinct : closure.HasDistinctParams) (enough : closure.params.length ≤ methodParams.length)
    (methodDistinct : methodParams.Nodup) :
    (∀ left ∈ closure.params, ∀ right ∈ closure.params, left ≠ "_" → right ≠ "_" →
        closure.renamed methodParams keepFirst left = closure.renamed methodParams keepFirst right →
        left = right) ↔
      ¬(keepFirst = true ∧ ∃ element further, closure.firstParam? = some element ∧
        closure.RenamesTo methodParams keepFirst further element) := by
  constructor
  · rintro injective ⟨rfl, element, further, isElement, renamesTo⟩
    have kept (target : String) : ¬closure.RenamesTo methodParams true element target :=
      firstParam?_kept distinct isElement
    obtain ⟨isFirst, bound⟩ := Option.filter_eq_some_iff.mp isElement
    have same : further = element := by
      refine injective further ?_ element (List.mem_of_mem_head? isFirst) renamesTo.1 (by simpa using bound) ?_
      · obtain ⟨_, _, _, isParam, _⟩ := renamesTo
        exact List.mem_of_getElem? isParam
      · rw [renamesTo.renamed distinct, renamed_kept kept]
    exact kept element (same ▸ renamesTo)
  · intro apart left leftPresent right rightPresent leftBound rightBound same
    obtain ⟨keeps, leftFirst, leftKept⟩ | leftTo := param_renamed distinct enough leftPresent leftBound
    · obtain ⟨_, rightFirst, _⟩ | rightTo := param_renamed distinct enough rightPresent rightBound
      · exact Option.some.inj (leftFirst.symm.trans rightFirst)
      · rw [← same, leftKept] at rightTo
        exact absurd ⟨keeps, left, right, leftFirst, rightTo⟩ apart
    · obtain ⟨keeps, rightFirst, rightKept⟩ | rightTo := param_renamed distinct enough rightPresent rightBound
      · rw [same, rightKept] at leftTo
        exact absurd ⟨keeps, right, left, rightFirst, leftTo⟩ apart
      · rw [← same] at rightTo
        exact leftTo.param_unique methodDistinct rightTo

/-- An item transform whose element has a name that parameters of mapping methods have too. -/
def reduction : Closure := ⟨["line", "offer"], .expression "reduce (line , offer)", ⟨8, 8⟩⟩

/-- Next to a parameter of another name the element and the offer stay apart. -/
theorem reduction_injective :
    reduction.HasDistinctParams ∧ reduction.params.length ≤ ["basket", "discount"].length ∧
      ["basket", "discount"].Nodup ∧
      ∀ left ∈ reduction.params, ∀ right ∈ reduction.params, left ≠ "_" → right ≠ "_" →
        reduction.renamed ["basket", "discount"] true left = reduction.renamed ["basket", "discount"] true right →
        left = right := by
  refine ⟨by decide, by decide, by decide, (renamed_injective_iff reduction ["basket", "discount"] true (by decide)
    (by decide) (by decide)).mpr ?_⟩
  rintro ⟨_, element, further, isElement, _, _, _, _, isTarget⟩
  obtain rfl : "line" = element := Option.some.inj isElement
  exact absurd (List.mem_of_getElem? isTarget) (by decide)

/-- The offer becomes the element where both parameters of the method are named `basket` and `line`. -/
theorem renamed_merges :
    ¬∀ (closure : Closure) (methodParams : List String) (keepFirst : Bool), closure.HasDistinctParams →
      closure.params.length ≤ methodParams.length → methodParams.Nodup →
      ∀ left ∈ closure.params, ∀ right ∈ closure.params, left ≠ "_" → right ≠ "_" →
        closure.renamed methodParams keepFirst left = closure.renamed methodParams keepFirst right →
        left = right := by
  intro injective
  have same := injective reduction ["basket", "line"] true (by decide) (by decide) (by decide) "line" (by decide)
    "offer" (by decide) (by decide) (by decide) (by decide +kernel)
  exact absurd same (by decide)

/-- The parameters are words, runs of one or more word characters. -/
def HasWordParams (closure : Closure) : Prop :=
  ∀ param ∈ closure.params, param ≠ "" ∧ param.toList.all isWordChar = true

instance (closure : Closure) : Decidable closure.HasWordParams := inferInstanceAs (Decidable (∀ _ ∈ _, _))

theorem HasWordParams.areWords (words : closure.HasWordParams) :
    AreWords (closure.renames methodParams keepFirst) := by
  intro rename member
  obtain ⟨param, target, ⟨_, _, _, isParam, _⟩, _, rfl⟩ := mem_renames_iff.mp member
  obtain ⟨full, wordChars⟩ := words param (List.mem_of_getElem? isParam)
  exact ⟨fun isEmpty => full (String.toList_eq_nil_iff.mp isEmpty), List.all_eq_true.mp wordChars⟩

/-- What the inlined text has in place of a piece of the body. -/
structure Replaces (closure : Closure) (methodParams : List String) (keepFirst : Bool)
    (piece replaced : List Char) : Prop where
  renamed : ∀ param target, closure.RenamesTo methodParams keepFirst param target → piece = param.toList →
    replaced = target.toList
  kept : (∀ param target, closure.RenamesTo methodParams keepFirst param target → piece ≠ param.toList) →
    replaced = piece

theorem replaces_renamed (distinct : closure.HasDistinctParams) (piece : List Char) :
    closure.Replaces methodParams keepFirst piece
      (closure.renamed methodParams keepFirst (String.ofList piece)).toList := by
  constructor
  · rintro param target renamesTo rfl
    rw [String.ofList_toList, renamesTo.renamed distinct]
  · intro kept
    rw [renamed_kept fun target renamesTo => kept _ target renamesTo String.toList_ofList.symm,
      String.toList_ofList]

/-- The inlined text is the body with each of its words replaced that is a parameter which gives way, by the
one that it gives way to; all words are replaced at once, and what stands between words is the same. -/
theorem inline?_pieces (closure : Closure) (body : String) (isExpression : closure.body = .expression body)
    (methodParams : List String) (keepFirst : Bool) (distinct : closure.HasDistinctParams)
    (words : closure.HasWordParams) :
    ∃ replaced, List.Forall₂ (closure.Replaces methodParams keepFirst) (wordPieces body.toList) replaced ∧
      closure.inline? methodParams keepFirst = some (String.ofList replaced.flatten) := by
  refine ⟨(wordPieces body.toList).map fun piece =>
    (closure.renamed methodParams keepFirst (String.ofList piece)).toList, ?_, ?_⟩
  · rw [List.forall₂_map_right_iff, List.forall₂_same]
    exact fun piece _ => replaces_renamed distinct piece
  · rw [inline?, isExpression, Option.some.injEq]
    refine String.toList_injective ?_
    rw [renameWords_toList, words.areWords.rename_pieces, String.toList_ofList, ← List.flatMap_def]
    refine List.flatMap_congr fun piece _ => ?_
    rw [renamed, String.toList_ofList]
    cases (closure.renames methodParams keepFirst).find? (·.word == piece) with
    | none => exact String.toList_ofList.symm
    | some rename => exact String.toList_ofList.symm

/-- An item transform with parameters that begin alike, two of which trade places with those of a method. -/
def trade : Closure :=
  ⟨["line", "l", "li", "_"], .expression "f (line , l , li , l2 , lié , \"l\")", ⟨8, 8⟩⟩

/-- The parameters `l` and `li` become each other, and no part of another word changes. -/
theorem trade_pieces :
    trade.body = .expression "f (line , l , li , l2 , lié , \"l\")" ∧ trade.HasDistinctParams ∧
      trade.HasWordParams ∧ ∃ replaced,
        List.Forall₂ (trade.Replaces ["order", "li", "l", "x"] true)
          (wordPieces "f (line , l , li , l2 , lié , \"l\")".toList) replaced ∧
        String.ofList replaced.flatten = "f (line , li , l , l2 , lié , \"li\")" := by
  have distinct : trade.HasDistinctParams := by decide
  have words : trade.HasWordParams := by decide +kernel
  obtain ⟨replaced, pieces, inlined⟩ := inline?_pieces trade _ rfl ["order", "li", "l", "x"] true distinct words
  have text : trade.inline? ["order", "li", "l", "x"] true = some "f (line , li , l , l2 , lié , \"li\")" := by
    decide +kernel
  exact ⟨rfl, distinct, words, replaced, pieces, Option.some.inj (inlined.symm.trans text)⟩

/-- A parameter without a name is found at every boundary of a word, so that pieces are added to the body. -/
theorem inline?_addsPieces :
    ¬∀ (closure : Closure) (body : String) (methodParams : List String) (keepFirst : Bool),
      closure.body = .expression body → closure.params.Nodup →
      (∀ param ∈ closure.params, param.toList.all isWordChar = true) →
      ∃ replaced, List.Forall₂ (closure.Replaces methodParams keepFirst) (wordPieces body.toList) replaced ∧
        closure.inline? methodParams keepFirst = some (String.ofList replaced.flatten) := by
  intro byPieces
  obtain ⟨replaced, pieces, inlined⟩ := byPieces ⟨[""], .expression "a b", ⟨0, 0⟩⟩ "a b" ["x"] false rfl
    (by decide) (by decide)
  have full : ∀ piece ∈ wordPieces "a b".toList, piece ≠ [] := fun _ => List.ne_nil_of_mem_splitBy
  have same : List.Forall₂ Eq (wordPieces "a b".toList) replaced := by
    refine ((List.forall₂_and_left _ _).mpr ⟨full, pieces⟩).imp fun piece new ⟨notEmpty, replaces⟩ => ?_
    refine (replaces.kept ?_).symm
    rintro param target ⟨_, _, _, isParam, _⟩ rfl
    obtain rfl : param = "" := List.mem_singleton.mp (List.mem_of_getElem? isParam)
    exact notEmpty rfl
  rw [List.forall₂_eq_eq_eq] at same
  have text : Closure.inline? ⟨[""], .expression "a b", ⟨0, 0⟩⟩ ["x"] false = some "xax xbx" := by
    decide +kernel
  have kept : String.ofList replaced.flatten = "a b" := by
    rw [← same, wordPieces, List.flatten_splitBy, String.ofList_toList]
  rw [text, kept] at inlined
  exact absurd inlined (by decide)

end Closure

end ObjectMapping
