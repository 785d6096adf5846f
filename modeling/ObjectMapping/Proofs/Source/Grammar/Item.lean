/-
This file proves that items are read and written as phrases, and that the members of traits and of `impl`
blocks are sound.
-/

import ObjectMapping.Proofs.Source.Grammar.Member
import ObjectMapping.Source.Grammar.Item

namespace ObjectMapping.Source

open Reader

theorem externCrate_reads : Reads externCrate :=
  (keyword_reads "extern").then ((keyword_reads "crate").then ((nameOr_yields "self").then
    ((keyword?_reads "as").bind fun _ _ => .optional (nameOr_yields "_") (mark_reads ";" rfl))))

/-- A pair of brackets that comes is read as it stands. -/
theorem tree_brackets (delimiter : Delimiter) :
    YieldsFrom (fun tokens => Ahead.isOpening delimiter tokens) tree fun _ => True :=
  tree_reads.weaken fun _ comes => .inr ⟨delimiter, comes⟩

theorem macroDefinition_reads : Reads macroDefinition := by
  refine (keyword_reads "macro").then (name_yields.then
    (.ifSees (fun _ held => held) ((tree_brackets .parenthesis).then ?_) ?_))
  all_goals exact .ifSees (fun _ held => held) (tree_brackets .brace) (.refuse _)

theorem macroItem_reads : Reads macroItem :=
  plainPath_reads.then ((mark_reads "!" rfl).then ((sees_reads _).bind fun _ _ =>
    .optional anyWord_yields (macroArguments_reads.bind fun _ _ => .ite (mark_reads ";" rfl) (.pure trivial))))

section

variable {grammar : Grammar} (sound : grammar.IsSound)
include sound

theorem structItem_yields : Yields (structItem grammar) Item.IsRead := by
  refine (keyword_reads "struct").then (name_names.bind fun _ isName => (generics_reads sound).bind fun _ _ =>
    (whereClause_reads sound).bind fun _ _ => .seesIf
      ((namedFields_yields sound).bind fun fields named => .pure ⟨trivial, isName, ?fields⟩) (.seesIf ?_ ?_))
  case fields =>
    intro found same
    cases same
    exact named
  · exact (countedFieldList_reads sound).then ((whereClause_reads sound).then
      ((mark_reads ";" rfl).then (.pure ⟨trivial, isName, nofun⟩)))
  · exact (mark_reads ";" rfl).then (.pure ⟨trivial, isName, nofun⟩)

theorem enumItem_yields : Yields (enumItem grammar) Item.IsRead :=
  (keyword_reads "enum").then (name_names.bind fun _ isName => (generics_reads sound).bind fun _ _ =>
    (whereClause_reads sound).then ((within_yields _ (variant_yields sound).commaList).bind fun _ named =>
      .pure ⟨trivial, isName, named⟩))

theorem unionItem_yields : Yields (unionItem grammar) Item.IsRead :=
  (keyword_reads "union").then (name_yields.then ((generics_reads sound).then
    ((whereClause_reads sound).then ((namedFields_yields sound).then (.pure Item.other_isRead)))))

theorem implItem_yields (isMarked : Bool) :
    Yields (implItem grammar isMarked) fun found => found.2.IsRead := by
  have members := (innerAttributes_reads sound).then (implMember_yields sound).untilEnd
  refine (keyword?_reads "default").then ((keyword?_reads "unsafe").then ((keyword_reads "impl").then
    ((sees_reads _).bind fun _ _ => .ite ((generics_reads sound).bind ?parameters)
      ((pure_reads _).bind ?parameters))))
  refine fun _ _ => (sees_reads _).bind fun _ _ => .ite ((mark?_reads "?" rfl).bind ?signs)
    ((pure_reads _).bind ?signs)
  refine fun _ _ => (keyword?_reads "const").bind fun _ _ => (sees_reads _).bind fun _ _ =>
    .optional (mark_reads "!" rfl) ((sound.type true).bind fun _ _ => (keyword?_reads "for").bind fun _ _ =>
      .ite ((sound.type true).bind ?owner) (.ite ((pure_reads _).bind ?owner) ((pure_reads _).bind ?owner)))
  exact fun _ _ => (whereClause_reads sound).then ((within_yields _ members).bind fun _ named =>
    .ite (.pure Item.other_isRead) (.pure ⟨fun member present => (named member present).isSound, named⟩))

theorem traitBody_yields : Yields (traitBody grammar) fun found =>
    ∀ member ∈ found.2, member.IsRead := by
  have bounds (stop : List Token → Bool) :=
    ((sound.bound false true).separated stop "+" rfl).mono fun _ _ => trivial
  exact (optionalBounds_reads (bounds _)).then ((whereClause_reads sound).then (within_yields _
    ((innerAttributes_reads sound).bind fun _ _ => (traitMember_yields sound).untilEnd.bind
      fun _ members => .pure members)))

theorem traitItem_yields (attributes : List Attribute) (seen : List Token) :
    Yields (traitItem grammar attributes seen) Item.IsRead := by
  refine (keyword?_reads "unsafe").bind fun _ _ => (keyword?_reads "auto").bind fun _ _ =>
    (keyword_reads "trait").then
      ((passName_moves _).yields.bind fun _ isName =>
        (generics_reads sound).capture.bind fun _ _ => .seesIf ?_ ?_)
  · exact (mark_reads "=" rfl).then (((sound.bound false true).separated _ "+" rfl).then
      ((whereClause_reads sound).then ((mark_reads ";" rfl).then (.pure Item.other_isRead))))
  · exact (traitBody_yields sound).bind fun _ members => .pure ⟨fun member present => (members member present).sound,
      isName, fun member present => (members member present).named⟩

theorem staticItem_reads : Reads (staticItem grammar) :=
  (keyword_reads "static").then ((keyword?_reads "mut").then (name_yields.then
    ((mark?_reads ":" rfl).bind fun _ _ => .optional (sound.type true) ((mark?_reads "=" rfl).bind fun _ _ =>
      .optional (sound.expression true) ((mark_reads ";" rfl).then (.pure trivial))))))

theorem foreignBlock_reads : Reads (foreignBlock grammar) :=
  (keyword?_reads "unsafe").then (interface?_reads.then (within_yields _
    ((innerAttributes_reads sound).then (foreignMember_reads sound).untilEnd.give)))

theorem moduleItem_reads : Reads (moduleItem grammar) :=
  (keyword?_reads "unsafe").then ((keyword_reads "mod").then ((nameOr_yields "try").then
    ((mark?_reads ";" rfl).bind fun _ _ => .ite (within_yields _
      ((innerAttributes_reads sound).then sound.item.untilEnd.give)) (.pure trivial))))

theorem useTrees_reads (allowsRoot : Bool) (budget : Nat) : Reads (useTrees grammar allowsRoot budget) := by
  induction budget with
  | zero => exact .refuse _
  | succ budget inductionHypothesis =>
      refine .seesIf (.pure trivial) (.ite ((mark?_reads "::" rfl).bind ?trees) ((pure_reads _).bind ?trees))
      exact fun _ _ => (sound.useTree _).bind fun _ _ => .seesIf (.pure trivial)
        ((mark_reads "," rfl).then (inductionHypothesis.bind fun _ _ => .pure trivial))

theorem useTree_reads (allowsRoot : Bool) : Reads (useTree grammar allowsRoot) := by
  refine .seesIf (anyWord_yields.then ((mark?_reads "::" rfl).branch (sound.useTree false)
    ((keyword?_reads "as").bind fun _ _ => .optional (nameOr_yields "_") (.pure trivial)))) ?_
  exact (mark?_reads "*" rfl).branch (.pure trivial) (within_yields _ (budget_reads.bind fun budget _ =>
    useTrees_reads sound allowsRoot budget))

theorem useItem_reads : Reads (useItem grammar) :=
  (keyword_reads "use").then ((mark?_reads "::" rfl).bind fun _ _ => (sound.useTree _).bind fun _ _ =>
    (mark_reads ";" rfl).then (.pure trivial))

theorem itemBehind_yields (attributes : List Attribute) (seen : Visibility) (seenTokens : List Token) :
    Yields (itemBehind grammar attributes seen seenTokens) fun found => found.2.IsRead := by
  refine .seesIf ((signature_yields sound).then ((bodyOrSemicolon_yields sound).bind fun _ _ =>
    .pure Item.other_isRead)) (.seesIf (externCrate_reads.then (.pure Item.other_isRead)) ?_)
  refine .seesIf ((foreignBlock_reads sound).then (.pure Item.other_isRead)) ?_
  refine .seesIf ((useItem_reads sound).bind fun _ _ => .pure Item.other_isRead) ?_
  refine .seesIf ((staticItem_reads sound).bind fun _ _ => .pure Item.other_isRead) ?_
  refine .seesIf ((constant_reads sound).bind fun _ _ => .pure Item.other_isRead) ?_
  refine .seesIf ((traitItem_yields sound _ _).bind fun _ found => .pure found) ?_
  refine .seesIf ((moduleItem_reads sound).then (.pure Item.other_isRead)) ?_
  refine .seesIf ((typeAlias_reads sound _).bind fun _ _ => .pure Item.other_isRead) ?_
  refine .seesIf ((structItem_yields sound).bind fun _ found => .pure found) ?_
  refine .seesIf ((enumItem_yields sound).bind fun _ found => .pure found) ?_
  refine .seesIf ((unionItem_yields sound).bind fun _ found => .pure found) ?_
  refine .seesIf (implItem_yields sound _) (.seesIf (macroDefinition_reads.then (.pure Item.other_isRead)) ?_)
  exact .seesIf (macroItem_reads.then (.pure Item.other_isRead)) (.refuse _)

theorem item_yields : Yields (item grammar) Item.IsRead :=
  .verbatimIf ((outerAttributes_reads sound).bind fun _ _ => visibility_reads.capture.bind fun _ _ =>
    itemBehind_yields sound _ _ _)

end

end ObjectMapping.Source
