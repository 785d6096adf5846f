/-
This file proves that bounds, generic parameters and conditions are read and written as phrases, also
where empty ones are dropped.
-/

import ObjectMapping.Proofs.Source.Grammar.Path
import ObjectMapping.Source.Grammar.Generics

namespace ObjectMapping.Source

open Reader

/-- A colon is written out again in front of the bounds behind it. -/
theorem optionalBounds_reads {α : Type} {bounds : Reader (List α)} (reads : Reads bounds) :
    Reads (optionalBounds bounds) :=
  .seesIf ((dropMark_yields ":" rfl).bind fun _ colon => reads.withhold.bind fun _ found =>
      .ite (write_reads (colon.append found.1)) (.pure trivial))
    (.pure trivial)

theorem lifetimeParameter_reads : Reads lifetimeParameter := by
  have lifetimes := lifetime_reads.joined (fun tokens => !isParameterEnd tokens) "+" rfl
  refine lifetime_reads.then (optionalBounds_reads (.seesIf (.pure trivial) ?_))
  exact lifetimes.mono fun _ _ => trivial

theorem interface?_reads : Reads interface? :=
  (keyword?_reads "extern").branch ((sees_reads _).bind fun _ _ =>
    .optional literal_reads (.pure trivial)) (.pure trivial)

theorem captureBound_reads : Reads captureBound := by
  refine (keyword_reads "use").then ((mark_reads "<" rfl).then
    (.then (.separated (show Reads _ from ?_) _ "," rfl) (mark_reads ">" rfl)))
  exact .seesIf lifetime_reads (nameOr_yields "Self").give

section

variable {grammar : Grammar} (sound : grammar.IsSound)
include sound

theorem boundsUntil_reads (stop : List Token → Bool) : Reads (boundsUntil grammar stop) :=
  .seesIf (.pure trivial) (((sound.bound false true).joined _ "+" rfl).mono fun _ _ => trivial)

theorem typeParameter_reads : Reads (typeParameter grammar) :=
  name_yields.then ((optionalBounds_reads (boundsUntil_reads sound _)).then
    ((mark?_reads "=" rfl).branch (sound.type true).give (.pure trivial)))

theorem constParameter_reads : Reads (constParameter grammar) :=
  (keyword_reads "const").then (name_yields.then ((mark_reads ":" rfl).then ((sound.type true).then
    ((mark?_reads "=" rfl).branch (constArgument_reads sound) (.pure trivial)))))

theorem genericParameter_reads : Reads (genericParameter grammar) :=
  (outerAttributes_reads sound).then (.seesIf lifetimeParameter_reads.give
    (.seesIf (typeParameter_reads sound).give (.seesIf (constParameter_reads sound).give
      (keyword_reads "_").give)))

theorem generics_reads : Reads (generics grammar) :=
  .seesIf (angled_reads false (genericParameter_reads sound)).give (.pure trivial)

theorem boundParameters_reads : Reads (boundParameters grammar) :=
  (keyword?_reads "for").branch ((mark_reads "<" rfl).then
    (((genericParameter_reads sound).separated (Ahead.isMark ">") "," rfl).then (mark_reads ">" rfl).give))
    (.pure trivial)

theorem result?_reads (allowsSum : Bool) : Reads (result? grammar allowsSum) :=
  (mark?_reads "->" rfl).branch (sound.type allowsSum).give (.pure trivial)

theorem functionArguments_reads : Reads (functionArguments grammar) :=
  (within_yields .parenthesis (sound.type true).commaList.give).then (result?_reads sound false).give

/-- The parameters that a bound binds are a phrase, so they can be written behind the sign. -/
theorem traitBound_reads (allowsConst : Bool) : Reads (traitBound grammar allowsConst) := by
  refine (boundParameters_reads sound).withhold.bind fun _ parameters => (sees_reads _).bind fun _ _ =>
    .ite ((pure_reads _).bind ?rest) (.ite ((within_yields _ (keyword_reads "const")).then
      ((pure_reads _).bind ?rest)) ((keyword?_reads "const").bind ?rest))
  intro isConst _
  refine (mark?_reads "?" rfl).bind fun _ _ => (write_reads parameters.1).then
    (.optional (boundParameters_reads sound) ((unqualifiedPath_moves sound false).yields.bind fun _ _ => ?_))
  exact .ite (.seesIf (.seesIf ((dropMark_yields "::" rfl).then (functionArguments_reads sound).give)
    (functionArguments_reads sound).give) (.pure trivial)) (.pure trivial)

theorem bound_reads (allowsCapture allowsConst : Bool) :
    Reads (bound grammar allowsCapture allowsConst) := by
  have single := traitBound_reads sound allowsConst
  exact .seesIf lifetime_reads.give (.seesIf (.ite captureBound_reads.give (.refuse _))
    (.seesIf (within_yields _ single) single))

theorem typeBounds_reads (allowsSum allowsCapture allowsConst : Bool) :
    Reads (typeBounds grammar allowsSum allowsCapture allowsConst) :=
  have bounds := sound.bound allowsCapture allowsConst
  .ite ((bounds.joined _ "+" rfl).mono fun _ _ => trivial) bounds.give

theorem condition_reads : Reads (condition grammar) := by
  have lifetimes := lifetime_reads.joined (fun tokens => !isConditionEnd tokens) "+" rfl
  refine .seesIf (lifetime_reads.then ((mark_reads ":" rfl).then (.seesIf lifetimes.give (.pure trivial)))) ?_
  exact (boundParameters_reads sound).then ((sound.type true).then ((mark_reads ":" rfl).then
    (boundsUntil_reads sound _).give))

theorem whereClause_reads : Reads (whereClause grammar) := by
  have conditions := (condition_reads sound).joined (fun tokens => !isConditionEnd tokens) "," rfl
  refine .seesIf (.bind (.withhold (show Reads _ from ?_)) fun _ found =>
    .optional (write_reads found.1) (.pure trivial)) (.pure trivial)
  exact (keyword_reads "where").then (.seesIf (.pure trivial) (conditions.mono fun _ _ => trivial))

end

end ObjectMapping.Source
