/-
This file proves that members are read and written as phrases, also those that are written as they stand,
and that the bodies of the functions of traits are sound.
-/

import ObjectMapping.Proofs.Source.Grammar.Signature
import ObjectMapping.Source.Grammar.Member

namespace ObjectMapping.Source

open Reader

theorem startsAnonymousFields_startsTree {tokens : List Token} (comes : startsAnonymousFields tokens) :
    StartsTree tokens := by
  simp only [startsAnonymousFields, Bool.or_eq_true, Bool.and_eq_true] at comes
  exact .inl (comes.elim isWord_startsWord fun both => isWord_startsWord both.1)

theorem macroMember_reads : Reads macroMember :=
  plainPath_reads.then ((mark_reads "!" rfl).then (macroArguments_reads.bind fun _ _ =>
    .ite (mark_reads ";" rfl) (.pure trivial)))

section

variable {grammar : Grammar} (sound : grammar.IsSound)
include sound

theorem namedField_yields : Yields (namedField grammar) fun field => field.name = "_" ∨ IsPlainWord field.name := by
  refine (fieldAttributes_reads sound).bind fun _ _ => visibility_reads.bind fun _ _ =>
    (nameOr_names "_").bind fun text named => (mark_reads ":" rfl).then (.ifSees ?_
      (.bind (.capture (show YieldsFrom _ _ fun _ => True from ?_)) fun _ _ => .pure named)
      ((sound.type true).bind fun _ _ => .pure named))
  · exact fun _ held => (Bool.and_eq_true_iff.mp held).2
  exact (tree_reads.weaken fun _ => startsAnonymousFields_startsTree).then brackets_reads.give

theorem namedFields_yields : Yields (namedFields grammar) fun fields =>
    ∀ field ∈ fields, field.name = "_" ∨ IsPlainWord field.name :=
  within_yields _ (namedField_yields sound).commaList

theorem countedFieldList_reads : Reads (countedFieldList grammar) := by
  have field : Reads (countedField grammar) := (fieldAttributes_reads sound).then
    (visibility_reads.then (sound.type true).give)
  exact within_yields _ field.commaList.give

theorem variant_yields : Yields (variant grammar) fun found => IsPlainWord found.name := by
  refine (outerAttributes_reads sound).then (visibility_reads.withhold.then (name_names.bind fun _ isName =>
    (sees_reads _).bind fun _ _ => (sees_reads _).bind fun _ _ => .ite ((namedFields_yields sound).then
      ((pure_reads _).bind ?rest)) (.ite ((countedFieldList_reads sound).then
        ((pure_reads _).bind ?rest)) ((pure_reads _).bind ?rest))))
  exact fun _ _ => (mark?_reads "=" rfl).bind fun _ _ => .optional (sound.expression true) (.pure isName)

theorem bodyOrSemicolon_yields : Yields (bodyOrSemicolon grammar) fun found =>
    ∀ statements ∈ found, ∀ statement ∈ statements, statement.IsSound :=
  .seesIf ((bodyBlock_moves sound).yields.bind fun _ good => .pure fun _ same =>
    Option.some.inj same ▸ good) ((mark_reads ";" rfl).then (.pure nofun))

theorem typeAlias_reads (place : ConditionPlace) : Reads (typeAlias grammar place) := by
  have bounds (stop : List Token → Bool) :=
    ((sound.bound false true).separated stop "+" rfl).mono fun _ _ => trivial
  have conditions := whereClause_reads sound
  refine (keyword_reads "type").then (name_yields.bind fun _ _ => (generics_reads sound).then
    ((sees_reads _).bind fun _ _ => (optionalBounds_reads (bounds _)).then
      (.ite ((pure_reads _).bind ?rest) (conditions.bind ?rest))))
  refine fun hasConditions _ => (mark?_reads "=" rfl).bind fun _ _ => .ite ((sound.type true).bind fun _ _ =>
    (pure_reads _).bind ?ending) ((pure_reads _).bind ?ending)
  exact fun _ _ => .optional conditions ((mark_reads ";" rfl).then (.pure trivial))

theorem constant_reads : Reads (constant grammar) := by
  refine (keyword_reads "const").then ((nameOr_yields "_").then ((sees_reads _).bind fun _ _ =>
    (generics_reads sound).then ((mark_reads ":" rfl).then ((sound.type true).then
      ((mark?_reads "=" rfl).bind fun _ _ => .optional (sound.expression true) ?_)))))
  exact (whereClause_reads sound).bind fun _ _ => (mark_reads ";" rfl).then (.pure trivial)

theorem implMember_yields : Yields (implMember grammar) ImplMember.IsNamed := by
  refine .verbatimIf ((outerAttributes_reads sound).then (visibility_reads.bind fun seen _ =>
    (sees_reads _).bind fun _ _ => .optional (keyword_reads "default") ?_))
  refine .seesIf ((signature_yields sound).bind fun _ isName => (bodyOrSemicolon_yields sound).bind
    fun body _ => ?_) (.seesIf ((constant_reads sound).bind fun _ _ => .pure trivial) (.seesIf
      ((typeAlias_reads sound _).bind fun found _ => ?_) (.seesIf ?_ (.refuse _))))
  · cases body with
    | some => exact .pure isName.name
    | none => exact .pure trivial
  · split <;> exact .pure trivial
  · exact macroMember_reads.then (.pure trivial)

theorem traitMember_yields : Yields (traitMember grammar) TraitMember.IsRead := by
  refine .bind (.capture (.verbatimIf (show Yields _ fun found : Bool × TraitMember =>
    found.2.IsRead from ?_))) fun found good => ?_
  · refine (outerAttributes_reads sound).then (visibility_reads.bind fun seen _ =>
      (keyword?_reads "default").bind fun isDefault _ => ?_)
    have other := TraitMember.other_isRead []
    refine .seesIf ((signature_yields sound).bind fun head isNamed => (bodyOrSemicolon_yields sound).bind
      fun body bodySound => .pure ?_) (.seesIf ((constant_reads sound).bind fun _ _ => .pure other)
        (.seesIf ((typeAlias_reads sound _).then (.pure other)) (.seesIf ?_ (.refuse _))))
    · dsimp only
      split
      · exact other
      · exact ⟨bodySound, isNamed⟩
    · exact macroMember_reads.then (.pure other)
  · obtain ⟨tokens, form⟩ := found
    cases form with
    | function _ head body => exact .pure ⟨good.2.sound, good.2.named⟩
    | other _ => exact .pure (TraitMember.other_isRead _)

theorem foreignStatic_reads : Reads (foreignStatic grammar) := by
  refine (keyword?_reads "unsafe").bind fun _ _ => .ite ((pure_reads _).bind ?rest)
    ((keyword?_reads "safe").bind ?rest)
  exact fun _ _ => (keyword_reads "static").then ((keyword?_reads "mut").then (name_yields.then
    ((mark_reads ":" rfl).then ((sound.type true).then ((mark?_reads "=" rfl).bind fun _ _ =>
      .optional (sound.expression true) ((mark_reads ";" rfl).then (.pure trivial)))))))

theorem foreignMember_reads : Reads (foreignMember grammar) := by
  refine .verbatimIf ((outerAttributes_reads sound).then (visibility_reads.bind fun seen _ => .seesIf ?_
    (.seesIf (foreignStatic_reads sound).give (.seesIf (typeAlias_reads sound _).give
      (.seesIf (macroMember_reads.then (.pure trivial)) (.refuse _))))))
  exact (markedSignature_yields sound true).bind fun _ _ => (bodyOrSemicolon_yields sound).give

end

end ObjectMapping.Source
