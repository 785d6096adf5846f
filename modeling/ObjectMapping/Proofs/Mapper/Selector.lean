/-
This file proves that a member can be selected: for every identifier the closure `|d| d.member` is read, and what
it selects is that member.
-/

import ObjectMapping.Mapper.Instruction
import ObjectMapping.Proofs.Source.Takes
import ObjectMapping.Source.File

namespace ObjectMapping

namespace Source

open Reader

/-- The closure `|d| d.member` and the places of its tokens. -/
structure SelectorText where
  member : String
  bar : Location
  parameter : Location
  otherBar : Location
  base : Location
  point : Location
  name : Location

namespace SelectorText

variable (selector : SelectorText)

def accessTokens : List Token := [markAt '.' selector.point, wordAt selector.member selector.name]

def bodyTokens : List Token := wordAt "d" selector.base :: selector.accessTokens

def tokens : List Token :=
  markAt '|' selector.bar :: wordAt "d" selector.parameter :: markAt '|' selector.otherBar :: selector.bodyTokens

/-- The parameter in the body. -/
def baseForm : Expression := .path [] ⟨false, false, 1, "d", .none⟩ [] []

def body : Expression :=
  .field selector.bodyTokens (baseForm.withTokens [wordAt "d" selector.base]) (some selector.member)

def closureForm : Expression := .closure [] [.name [wordAt "d" selector.parameter] "d"] selector.body

def closure : Expression := selector.closureForm.withTokens selector.tokens

end SelectorText

section

variable (grammar : Grammar) (selector : SelectorText) (isName : selector.member ∉ keywords)
include isName

theorem noAwait_takes :
    Takes (keyword? "await") [] [wordAt selector.member selector.name] false := by
  have isAwait : "await" ∈ keywords := by decide
  exact .sees (isWord_name isName selector.name [] "await" isAwait) (.pure false)

theorem fieldName_takes : Takes fieldName [wordAt selector.member selector.name] [] (some selector.member) := by
  have comes := isName_name isName selector.name []
  have taken : Takes name [wordAt selector.member selector.name] [] selector.member :=
    Rewrites.give (.pass comes) (.pure _)
  exact .sees comes (taken.give (.pure _))

theorem afterPoint_takes (base : Expression) : Takes (afterPoint grammar base)
    [wordAt selector.member selector.name] [] fun tokens => .field tokens base (some selector.member) := by
  have uncounted : Takes countedFields? [] [wordAt selector.member selector.name] true := .sees rfl (.pure true)
  refine uncounted.skip (Rewrites.skip (noAwait_takes selector isName) ?_)
  exact (fieldName_takes selector isName).give (.sees rfl (.sees rfl (.pure _)))

theorem trailer?_takes {base : Expression} (noRange : base.isRange = false) :
    Takes (trailer? grammar base) selector.accessTokens []
      (some fun tokens => .field tokens base (some selector.member)) := by
  refine .sees rfl (.sees rfl ?_)
  rw [noRange]
  have point : Takes (mark ".") [markAt '.' selector.point] [wordAt selector.member selector.name] () := fun _ _ => rfl
  refine .sees rfl (Takes.cons point ?_)
  exact (afterPoint_takes grammar selector isName base).give (.pure _)

/-- Behind the field nothing is applied any more. -/
theorem trailers_takes {base : Expression} (noRange : base.isRange = false) :
    Takes (trailers grammar base) selector.accessTokens []
      (.field (base.tokens ++ selector.accessTokens) base (some selector.member)) := by
  have room : Takes budget [] selector.accessTokens 3 := fun _ _ => rfl
  exact room.skip ((trailer?_takes grammar selector isName noRange).capture.give fun _ _ => rfl)

theorem operand_takes : Takes (operand grammar true) selector.bodyTokens [] selector.body := by
  have path : Takes (atomForm grammar true) [wordAt "d" selector.base] selector.accessTokens SelectorText.baseForm :=
    fun _ _ => rfl
  have applied : Takes (applied grammar true) selector.bodyTokens [] selector.body :=
    Takes.cons path.capture (trailers_takes grammar selector isName rfl)
  have plain : Takes (outerAttributes grammar) [] selector.bodyTokens [] := fun _ _ => rfl
  have form : Takes (operandForm grammar true) selector.bodyTokens [] selector.body := by
    refine plain.skip (.sees rfl ?_)
    exact applied
  exact form.capture.give (.pure _)

theorem body_takes : Takes (expression grammar.above true) selector.bodyTokens [] selector.body := by
  have ended : Takes (operation grammar.above true .lowest selector.body) [] [] selector.body := fun _ _ => rfl
  exact (operand_takes grammar selector isName).give ended

theorem closure_takes : Takes (closure grammar.above.above true) selector.tokens [] selector.closureForm := by
  have unbound : Takes (boundParameters grammar.above.above) [] selector.tokens false := fun _ _ => rfl
  have noConst : Takes (keyword? "const") [] selector.tokens false := fun _ _ => rfl
  have noStatic : Takes (keyword? "static") [] selector.tokens false := fun _ _ => rfl
  have noAsync : Takes (keyword? "async") [] selector.tokens false := fun _ _ => rfl
  have noMove : Takes (keyword? "move") [] selector.tokens false := fun _ _ => rfl
  have bar : Takes (mark "|") [markAt '|' selector.bar]
    (wordAt "d" selector.parameter :: markAt '|' selector.otherBar :: selector.bodyTokens) () := fun _ _ => rfl
  have parameters : Takes (separated (Ahead.isMark "|") "," (closureParameter grammar.above.above))
    [wordAt "d" selector.parameter] (markAt '|' selector.otherBar :: selector.bodyTokens)
      [.name [wordAt "d" selector.parameter] "d"] := fun _ _ => rfl
  have otherBar : Takes (mark "|") [markAt '|' selector.otherBar] selector.bodyTokens () := fun _ _ => rfl
  refine unbound.skip (noConst.skip (noStatic.skip (noAsync.skip (noMove.skip ?_))))
  refine bar.cons (parameters.cons (otherBar.cons (.sees rfl ?_)))
  exact (body_takes grammar selector isName).give (.pure _)

/-- Three levels are enough for a closure with a field for its body. -/
theorem selector_takes : Takes (expression grammar.above.above.above true) selector.tokens [] selector.closure := by
  have atom : Takes (atomForm grammar.above.above true) selector.tokens [] selector.closureForm := by
    refine .sees rfl (.sees rfl (.sees rfl ?_))
    exact closure_takes grammar selector isName
  have alone : Takes (trailers grammar.above.above selector.closure) [] [] selector.closure := fun _ _ => rfl
  have applied : Takes (applied grammar.above.above true) selector.tokens [] selector.closure :=
    Rewrites.give atom.capture alone
  have plain : Takes (outerAttributes grammar.above.above) [] selector.tokens [] := fun _ _ => rfl
  have form : Takes (operandForm grammar.above.above true) selector.tokens [] selector.closure := by
    refine plain.skip (.sees rfl ?_)
    exact applied
  have operand : Takes (operand grammar.above.above true) selector.tokens [] selector.closure :=
    form.capture.give (.pure _)
  have ended : Takes (operation grammar.above.above.above true .lowest selector.closure) [] [] selector.closure :=
    fun _ _ => rfl
  exact operand.give ended

end

/-- The lexemes of a closure that selects the member. -/
def selectorLexemes (member : String) : List Lexeme :=
  [.mark '|' false, .word "d", .mark '|' false, .word "d", .mark '.' false, .word member]

/-- The text is cut into the tokens of the closure. -/
theorem selectorLexemes_scan {member : String} (isName : IsPlainWord member) :
    ∃ selector : SelectorText, selector.member = member ∧
      scan (lexemesText (selectorLexemes member)).toList = some selector.tokens := by
  have sign (char : Char) (isMark : char ∈ markChars) (plain : char ≠ '\x27') (notSlash : char ≠ '/') :
      IsPhrase [markAt char Location.startOfText] :=
    .single (Lexeme.mark_isSpelt false isMark plain) rfl (by simp [markAt])
  have word (text : String) (spelt : (Lexeme.word text).IsSpelt) : IsPhrase [wordAt text Location.startOfText] :=
    .single spelt rfl nofun
  have bar := (sign '|' (by decide) (by decide) (by decide)).append (word "d" rfl)
  have point := (sign '.' (by decide) (by decide) (by decide)).append (word member isName.spelt)
  obtain ⟨tokens, scanned, same⟩ := (bar.append (bar.append point)).scan
  match tokens, same with
  | [⟨_, bar⟩, ⟨_, parameter⟩, ⟨_, otherBar⟩, ⟨_, base⟩, ⟨_, point⟩, ⟨_, name⟩], same =>
      cases same
      exact ⟨⟨member, bar, parameter, otherBar, base, point, name⟩, rfl, scanned⟩

end Source

namespace Mapper

open Source

/-- The expression selects the member, and directives that have it for an argument are about the member. -/
structure Addresses (expression : Expression) (member : String) : Prop where
  selects : selector expression = .ok member
  ignores : ∀ host tokens, instructionOfCall host ⟨.ignoreMember, tokens, [], [], [expression]⟩ =
    .ok (.ignoreMember ⟨member, tokensLocation tokens⟩)
  maps : ∀ host tokens source value, transform source = .ok value →
    instructionOfCall host ⟨.mapMember, tokens, [], [], [expression, source]⟩ =
      .ok (.mapMember ⟨member, value, tokensLocation tokens⟩)

theorem addresses_selected {expression : Expression} {member : String} (selects : selector expression = .ok member) :
    Addresses expression member where
  selects := selects
  ignores _ _ := by
    simp only [instructionOfCall, selects]
    rfl
  maps _ _ _ _ taken := by
    simp only [instructionOfCall, selects, taken]
    rfl

/-- The text is read as an expression that selects the member. -/
def Selects (text member : String) : Prop :=
  ∃ tokens expression, scan text.toList = some tokens ∧
    Reader.run ((Grammar.forLength tokens.length).expression true) true tokens = .ok (tokens, expression) ∧
      Addresses expression member

/-- Every name can be selected. -/
theorem selects_name {member : String} (isName : IsPlainWord member) :
    Selects (lexemesText (selectorLexemes member)) member := by
  obtain ⟨selector, rfl, scanned⟩ := selectorLexemes_scan isName
  have taken := selector_takes (Grammar.level 22) selector isName.notKeyword
  exact ⟨selector.tokens, selector.closure, scanned, taken.run true, addresses_selected rfl⟩

end Mapper

end ObjectMapping
