/-
This file proves that plain types are read back. The compact text of a type that is made of names, arguments in angle
brackets and slices is cut into its tokens, and these are read as the type, to any depth.
-/

import ObjectMapping.Proofs.Source.Takes
import ObjectMapping.Source.File

namespace ObjectMapping.Source

open Reader Text

/-- A type made of names, arguments and slices. -/
inductive PlainType
  | named (name : String)
  | applied (name : String) (argument : PlainType)
  | slice (element : PlainType)

namespace PlainType

/-- The type as it is written without spaces. -/
def text : PlainType → String
  | .named name => name
  | .applied name argument => name ++ "<" ++ argument.text ++ ">"
  | .slice element => "[" ++ element.text ++ "]"

/-- The names are such that a type can have them. -/
def HasNames : PlainType → Prop
  | .named name => IsPlainWord name
  | .applied name argument => IsPlainWord name ∧ argument.HasNames
  | .slice element => element.HasNames

/-- The lexemes of the type; whether its last angle is joint depends on what follows. -/
def lexemes : PlainType → (joint : Bool) → List Lexeme
  | .named name, _ => [.word name]
  | .applied name argument, joint => .word name :: .mark '<' false :: (argument.lexemes true ++ [.mark '>' joint])
  | .slice element, _ => .opening .bracket :: (element.lexemes false ++ [.closing .bracket])

/-- How deep types stand inside each other. -/
def depth : PlainType → Nat
  | .named _ => 1
  | .applied _ argument => argument.depth + 1
  | .slice element => element.depth + 1

/-- The tokens are those of the type, at some places. -/
inductive IsWritten : PlainType → List Token → Prop
  | named (name : String) (place : Location) : IsWritten (.named name) [wordAt name place]
  | applied (name : String) (argument : PlainType) (tokens : List Token) (place opened closed : Location) (joint : Bool)
      (inner : IsWritten argument tokens) : IsWritten (.applied name argument)
        (wordAt name place :: markAt '<' opened :: (tokens ++ [⟨.mark '>' joint, closed⟩]))
  | slice (element : PlainType) (tokens : List Token) (opened closed : Location) (inner : IsWritten element tokens) :
      IsWritten (.slice element) (⟨.opening .bracket, opened⟩ :: (tokens ++ [⟨.closing .bracket, closed⟩]))

theorem isWritten_of_lexemes {type : PlainType} {tokens : List Token} {joint : Bool}
    (same : tokens.map (·.lexeme) = type.lexemes joint) : type.IsWritten tokens := by
  induction type generalizing tokens joint with
  | named name =>
      obtain ⟨⟨_, place⟩, rfl, rfl⟩ := List.map_eq_singleton_iff.mp same
      exact .named name place
  | applied name argument inductionHypothesis =>
      obtain ⟨⟨_, place⟩, _, rfl, rfl, behindName⟩ := List.map_eq_cons_iff.mp same
      obtain ⟨⟨_, opened⟩, _, rfl, rfl, behindAngle⟩ := List.map_eq_cons_iff.mp behindName
      obtain ⟨inner, _, rfl, ofInner, isLast⟩ := List.map_eq_append_iff.mp behindAngle
      obtain ⟨⟨_, closed⟩, rfl, rfl⟩ := List.map_eq_singleton_iff.mp isLast
      exact .applied name argument inner place opened closed joint (inductionHypothesis ofInner)
  | slice element inductionHypothesis =>
      obtain ⟨⟨_, opened⟩, _, rfl, rfl, behindBracket⟩ := List.map_eq_cons_iff.mp same
      obtain ⟨inner, _, rfl, ofInner, isLast⟩ := List.map_eq_append_iff.mp behindBracket
      obtain ⟨⟨_, closed⟩, rfl, rfl⟩ := List.map_eq_singleton_iff.mp isLast
      exact .slice element inner opened closed (inductionHypothesis ofInner)

namespace IsWritten

variable {type : PlainType} {tokens : List Token} (written : type.IsWritten tokens)
include written

theorem balanced : IsBalanced tokens := by
  induction written with
  | named => exact .single rfl
  | applied name argument tokens place opened closed joint _ inductionHypothesis =>
      have word : IsBalanced [wordAt name place] := .single rfl
      have angle : IsBalanced [markAt '<' opened] := .single rfl
      exact word.append (angle.append (inductionHypothesis.append (.single rfl)))
  | slice element tokens opened closed _ inductionHypothesis => exact .enclose rfl rfl inductionHypothesis

theorem depth_le : type.depth ≤ tokens.length := by
  induction written with
  | named => exact Nat.le_refl _
  | applied name argument tokens place opened closed joint _ inductionHypothesis =>
      simp only [depth, List.length_cons, List.length_append]
      omega
  | slice element tokens opened closed _ inductionHypothesis =>
      simp only [depth, List.length_cons, List.length_append]
      omega

end IsWritten

end PlainType

/-! The text is cut into the tokens. -/

/-- A sign that is read alone is no white space and starts no comment. -/
theorem ScansAs.sign {char : Char} {lexeme : Lexeme} {rest : List Char} {others : List Lexeme}
    (notBlank : isBlank char = false) (notSlash : char ≠ '/') (read : lexemes? (char :: rest) = some ([lexeme], rest))
    (scans : ScansAs rest others) : ScansAs (char :: rest) (lexeme :: others) := by
  have noComment : startsComment char rest = false := by simp [startsComment, notSlash]
  exact ScansAs.step (skipBlanks_cons notBlank noComment) (List.cons_ne_nil _ _) read (Nat.lt_succ_self _) scans

/-- A sign of an operator is joint if another one follows. -/
theorem ScansAs.mark {char : Char} {rest : List Char} {others : List Lexeme} (spelt : (Lexeme.mark char false).IsSpelt)
    (notBlank : isBlank char = false) (notSlash : char ≠ '/') (scans : ScansAs rest others) :
    ScansAs (char :: rest) (.mark char (startsWithMark rest) :: others) :=
  .sign notBlank notSlash (lexemes?_mark spelt (by simp [startsComment, notSlash])) scans

theorem ScansAs.word {text : String} (spelt : (Lexeme.word text).IsSpelt) {rest : List Char} {others : List Lexeme}
    (separated : IsSeparated rest) (scans : ScansAs rest others) :
    ScansAs (text.toList ++ rest) (.word text :: others) := by
  obtain ⟨head, isHead, start⟩ := (Option.any_eq_true _ _).mp spelt.word.start
  obtain ⟨tail, split⟩ := List.head?_eq_some_iff.mp isHead
  have notSlash : head ∉ ['/'] := not_mem_of_test start _ rfl
  have noComment : startsComment head (tail ++ rest) = false := by
    simpa [startsComment] using fun slash => absurd (List.mem_singleton.mpr slash) notSlash
  have skipped : skipBlanks (text.toList ++ rest) = text.toList ++ rest := by
    rw [split, List.cons_append, skipBlanks_cons (isBlank_start start) noComment]
  refine ScansAs.step skipped ?_ (spelt.lexemes?_append rfl separated) ?_ scans
  · exact List.append_ne_nil_of_left_ne_nil spelt.ne_nil _
  · have positive := List.length_pos_of_ne_nil spelt.ne_nil
    rw [List.length_append]
    exact Nat.lt_add_of_pos_left positive

namespace PlainType

theorem applied_text (name : String) (argument : PlainType) (rest : List Char) :
    (applied name argument).text.toList ++ rest = name.toList ++ '<' :: (argument.text.toList ++ '>' :: rest) := by
  simp [text, String.toList_append]

theorem slice_text (element : PlainType) (rest : List Char) :
    (slice element).text.toList ++ rest = '[' :: (element.text.toList ++ ']' :: rest) := by
  simp [text, String.toList_append]

/-- A type starts with a word or with a bracket. -/
theorem text_head {type : PlainType} (named : type.HasNames) :
    ∃ head tail, type.text.toList = head :: tail ∧ (isIdentifierStart head ∨ head = '[') := by
  have ofName {name : String} (isName : IsPlainWord name) :
      ∃ head tail, name.toList = head :: tail ∧ isIdentifierStart head := by
    obtain ⟨head, isHead, start⟩ := (Option.any_eq_true _ _).mp isName.spelt.word.start
    obtain ⟨tail, split⟩ := List.head?_eq_some_iff.mp isHead
    exact ⟨head, tail, split, start⟩
  cases type with
  | named name =>
      obtain ⟨head, tail, split, start⟩ := ofName named
      exact ⟨head, tail, split, .inl start⟩
  | applied name argument =>
      obtain ⟨head, tail, split, start⟩ := ofName named.1
      have whole := applied_text name argument []
      rw [List.append_nil, split, List.cons_append] at whole
      exact ⟨head, _, whole, .inl start⟩
  | slice element =>
      have whole := slice_text element []
      rw [List.append_nil] at whole
      exact ⟨'[', _, whole, .inr rfl⟩

theorem text_noMark {type : PlainType} (named : type.HasNames) (rest : List Char) :
    startsWithMark (type.text.toList ++ rest) = false := by
  obtain ⟨head, tail, split, start⟩ := text_head named
  have noMark : head ∉ markChars := by
    obtain start | rfl := start
    · exact not_mem_of_test start markChars rfl
    · decide
  rw [split, List.cons_append, startsWithMark_cons, List.contains_eq_mem, decide_eq_false noMark, Bool.false_and]

theorem text_noByteOrderMark {type : PlainType} (named : type.HasNames) :
    withoutByteOrderMark type.text.toList = type.text.toList := by
  obtain ⟨head, tail, split, start⟩ := text_head named
  rw [split]
  refine withoutByteOrderMark.eq_2 _ fun rest same => ?_
  obtain ⟨rfl, _⟩ := List.cons.inj same
  obtain start | same := start
  · rw [isIdentifierStart_byteOrderMark] at start
    cases start
  · exact absurd same (by decide)

/-- In front of a rest that is separated the text is cut into the lexemes. -/
theorem scansAs {type : PlainType} (named : type.HasNames) {rest : List Char} {others : List Lexeme}
    (separated : IsSeparated rest) (scans : ScansAs rest others) :
    ScansAs (type.text.toList ++ rest) (type.lexemes (startsWithMark rest) ++ others) := by
  have front {sign : Char} (isSign : isSeparator sign) (text : List Char) : IsSeparated (sign :: text) := by
    intro char isHead
    cases isHead
    exact isSign
  induction type generalizing rest others with
  | named name => exact .word named.spelt separated scans
  | applied name argument inductionHypothesis =>
      have close := ScansAs.mark (by decide : (Lexeme.mark '>' false).IsSpelt) rfl (by decide) scans
      have inner := inductionHypothesis named.2 (front rfl rest) close
      have angle := ScansAs.mark (by decide : (Lexeme.mark '<' false).IsSpelt) rfl (by decide) inner
      have whole := ScansAs.word named.1.spelt (front rfl _) angle
      rw [text_noMark named.2] at whole
      rw [applied_text, lexemes, List.cons_append, List.cons_append, List.append_assoc]
      exact whole
  | slice element inductionHypothesis =>
      have close := ScansAs.sign rfl (by decide) (lexemes?_closing .bracket rest) scans
      have inner := inductionHypothesis named (front rfl rest) close
      have whole := ScansAs.sign rfl (by decide) (lexemes?_opening .bracket _) inner
      rw [slice_text, lexemes, List.cons_append, List.append_assoc]
      exact whole

/-- The text of a type is cut into its tokens. -/
theorem scan_text {type : PlainType} (named : type.HasNames) :
    ∃ tokens, scan type.text.toList = some tokens ∧ type.IsWritten tokens := by
  have ended : ScansAs [] [] := .blank (by simp [skipBlanks])
  have separated : IsSeparated [] := by
    intro char isHead
    cases isHead
  obtain ⟨tokens, scanned, same⟩ := scansAs named separated ended Location.startOfText
  rw [List.append_nil] at scanned same
  have written := isWritten_of_lexemes same
  refine ⟨tokens, ?_, written⟩
  rw [scan, text_noByteOrderMark named, scanned]
  exact Option.filter_eq_some_iff.mpr ⟨rfl, written.balanced.isBalanced⟩

end PlainType

/-! The tokens are read as the type. -/

/-- Where a plain type ends: at the end of the text, in front of an angle or in front of a bracket that closes. -/
def EndsType (rest : List Token) : Prop :=
  ∀ token ∈ rest.head?, (∃ joint, token.lexeme = .mark '>' joint) ∨ ∃ delimiter, token.lexeme = .closing delimiter

theorem EndsType.noMark {rest : List Token} (ends : EndsType rest) (operator : String)
    (other : operator.toList.head?.any (· != '>')) : Ahead.isMark operator rest = false := by
  obtain ⟨char, isHead, differs⟩ := (Option.any_eq_true _ _).mp other
  obtain ⟨chars, split⟩ := List.head?_eq_some_iff.mp isHead
  rw [Ahead.isMark, split]
  cases rest with
  | nil => rfl
  | cons token others =>
      obtain ⟨joint, same⟩ | ⟨delimiter, same⟩ := ends token rfl
      · have isOther : ('>' == char) = false := by simpa using Ne.symm (bne_iff_ne.mp differs)
        rw [Ahead.isOperator, same]
        dsimp only
        rw [isOther, Bool.false_and, Bool.false_and]
      · rw [Ahead.isOperator, same]

/-- What is read of the type, whatever its tokens. -/
inductive WrittenType.Spells : WrittenType → PlainType → Prop
  | named (tokens : List Token) (name : String) : Spells (.path tokens ⟨false, false, 1, name, .none⟩) (.named name)
  | applied (tokens : List Token) (name : String) {argument : WrittenType} {type : PlainType}
      (inner : Spells argument type) :
      Spells (.application tokens ⟨false, false, 1, name, .angled⟩ argument) (.applied name type)
  | slice (tokens : List Token) {element : WrittenType} {type : PlainType} (inner : Spells element type) :
      Spells (.slice tokens element) (.slice type)

/-- A type comes: a name or a bracket. -/
def StartsType (tokens : List Token) : Prop :=
  (∃ name place rest, name ∉ keywords ∧ tokens = wordAt name place :: rest) ∨
    ∃ place rest, tokens = ⟨.opening .bracket, place⟩ :: rest

namespace StartsType

variable {tokens : List Token} (starts : StartsType tokens)
include starts

theorem noMark (operator : String) (nonempty : operator.toList ≠ []) : Ahead.isMark operator tokens = false := by
  obtain ⟨char, chars, split⟩ := List.exists_cons_of_ne_nil nonempty
  rw [Ahead.isMark, split]
  obtain ⟨name, place, rest, _, rfl⟩ | ⟨place, rest, rfl⟩ := starts <;> rfl

theorem noLifetime : Ahead.isLifetime tokens = false := by
  obtain ⟨name, place, rest, _, rfl⟩ | ⟨place, rest, rfl⟩ := starts <;> rfl

theorem noConst : isConstArgument tokens = false := by
  obtain ⟨name, place, rest, isName, rfl⟩ | ⟨place, rest, rfl⟩ := starts
  · have noTruth := isWord_name isName place rest "true" (by decide)
    have noFalsehood := isWord_name isName place rest "false" (by decide)
    rw [isConstArgument, Ahead.isLiteral, noTruth, noFalsehood]
    rfl
  · rfl

end StartsType

theorem PlainType.IsWritten.starts {type : PlainType} {tokens : List Token} (written : type.IsWritten tokens)
    (named : type.HasNames) (rest : List Token) : StartsType (tokens ++ rest) := by
  cases written with
  | named name place => exact .inl ⟨name, place, _, named.notKeyword, rfl⟩
  | applied name argument tokens place => exact .inl ⟨name, place, _, named.1.notKeyword, rfl⟩
  | slice element tokens opened => exact .inr ⟨opened, _, rfl⟩

theorem noMark_takes {operator : String} {rest : List Token} (absent : Ahead.isMark operator rest = false) :
    Takes (Reader.mark? operator) [] rest false := Rewrites.sees absent (.pure false)

/-- What is written for one argument in angles, the last of which is never joint. -/
def angledTokens (opened closed : Location) (argument : List Token) : List Token :=
  glued "<" opened ++ AngledPiece.arranged [⟨false, argument, false⟩] ++ glued ">" closed

section

variable {grammar : Grammar} {tokens rest written : List Token} {argument : WrittenType} {joint : Bool}
  {closed : Location} (starts : StartsType (tokens ++ ⟨.mark '>' joint, closed⟩ :: rest))
  (inner : Rewrites (grammar.type true) tokens (⟨.mark '>' joint, closed⟩ :: rest) written argument)
include starts inner

/-- No equation and no constraint follows the argument. -/
theorem genericArgument_rewrites :
    Rewrites (genericArgument grammar) tokens (⟨.mark '>' joint, closed⟩ :: rest) written (false, some argument) := by
  have noLifetime : (Ahead.isLifetime (tokens ++ ⟨.mark '>' joint, closed⟩ :: rest) &&
      !Ahead.second (Ahead.isMark "+") (tokens ++ ⟨.mark '>' joint, closed⟩ :: rest)) = false := by
    rw [starts.noLifetime, Bool.false_and]
  have noEquation : Takes (Reader.mark? "=") [] (⟨.mark '>' joint, closed⟩ :: rest) false := noMark_takes rfl
  have noConstraint : Takes (Reader.mark? ":") [] (⟨.mark '>' joint, closed⟩ :: rest) false := noMark_takes rfl
  refine .sees noLifetime (.sees starts.noConst (inner.give ?_))
  by_cases canGoOn : namesAssociated argument
  · rw [if_pos canGoOn]
    refine noEquation.skip (noConstraint.skip ?_)
    exact .pure _
  · rw [if_neg canGoOn]
    exact .pure _

/-- The list holds the argument alone. -/
theorem angled_rewrites (opened : Location) :
    Rewrites (angled true (genericArgument grammar)) (markAt '<' opened :: (tokens ++ [⟨.mark '>' joint, closed⟩])) rest
      (angledTokens opened closed written) [some argument] := by
  have opens (others : List Token) : Rewrites (dropMark "<") [markAt '<' opened] others [] opened := fun _ _ => rfl
  have closes : Rewrites (dropMark ">") [⟨.mark '>' joint, closed⟩] rest [] closed := fun _ _ => rfl
  have room (others : List Token) : Takes budget [] others (others.length + 1) := fun _ _ => rfl
  have pieces (fewer : Nat) : Rewrites (angledWithin (genericArgument grammar) (fewer + 1)) tokens
      (⟨.mark '>' joint, closed⟩ :: rest) [] [(⟨false, written, false⟩, some argument)] := by
    have argumentTaken := (genericArgument_rewrites starts inner).withhold
    exact .sees (starts.noMark ">" (by decide)) (argumentTaken.give (.sees rfl (.pure _)))
  have behind : Rewrites (angled true (genericArgument grammar))
      (markAt '<' opened :: (tokens ++ [⟨.mark '>' joint, closed⟩])) rest
        ([] ++ ([] ++ ([] ++ angledTokens opened closed written))) [some argument] := by
    refine (opens _).cons ((room _).skip ((pieces _).bind (closes.cons ?_)))
    exact fun _ _ => rfl
  exact behind

theorem angledArguments_rewrites (opened : Location) :
    Rewrites (angledArguments grammar) (markAt '<' opened :: (tokens ++ [⟨.mark '>' joint, closed⟩])) rest
      (angledTokens opened closed written) ⟨.angled, [some argument], angledTokens opened closed written⟩ := by
  have noColons : Takes (Reader.mark? "::") []
      ((markAt '<' opened :: (tokens ++ [⟨.mark '>' joint, closed⟩])) ++ rest) false := noMark_takes rfl
  refine .give (.capture (noColons.skip ?_)) (.pure _)
  exact angled_rewrites starts inner opened

end

section

variable {grammar : Grammar} {name : String} (isName : name ∉ keywords) {place : Location} {rest : List Token}
include isName

theorem segmentName_takes (others : List Token) : Takes (nameOr "Self") [wordAt name place] others name := by
  have comes : (Ahead.isName (wordAt name place :: others) || Ahead.isWord "Self" (wordAt name place :: others)) =
      true := by rw [isName_name isName place others, Bool.true_or]
  exact Rewrites.give (.pass comes) (.pure _)

theorem plainSegment_takes (ends : EndsType rest) :
    Takes (pathSegment grammar false) [wordAt name place] rest ⟨name, .absent⟩ := by
  have noArguments : startsArguments false ([] ++ rest) = false := by
    simp [startsArguments, ends.noMark "<" rfl, ends.noMark "::" rfl]
  refine Rewrites.sees (anyWord_name isName place _ (by decide)) ?_
  exact (segmentName_takes isName rest).give (.sees noArguments (.pure _))

theorem appliedSegment_rewrites {tokens written : List Token} {argument : WrittenType} {joint : Bool}
    {opened closed : Location} (starts : StartsType (tokens ++ ⟨.mark '>' joint, closed⟩ :: rest))
    (inner : Rewrites (grammar.type true) tokens (⟨.mark '>' joint, closed⟩ :: rest) written argument) :
    Rewrites (pathSegment grammar false)
      (wordAt name place :: markAt '<' opened :: (tokens ++ [⟨.mark '>' joint, closed⟩])) rest
        (wordAt name place :: angledTokens opened closed written)
          ⟨name, .angled, [some argument], angledTokens opened closed written⟩ := by
  have arguments := angledArguments_rewrites starts inner opened
  refine .sees (anyWord_name isName place _ (by decide)) (Rewrites.cons (segmentName_takes isName _) ?_)
  exact .sees (rfl : _ = true) (arguments.give (.pure _))

end

section

variable {grammar : Grammar} {tokens rest written : List Token} {first : PathSegment} (ends : EndsType rest)
  (starts : StartsType (tokens ++ rest)) (segment : Rewrites (pathSegment grammar false) tokens rest written first)
include ends

theorem furtherSegments_takes : Takes (furtherSegments grammar false startsSegment) [] rest [] := by
  have noSegment : startsSegment rest = false := by rw [startsSegment, ends.noMark "::" rfl, Bool.false_and]
  have room : Takes budget [] rest (rest.length + 1) := fun _ _ => rfl
  refine room.skip ?_
  exact .sees noSegment (.pure _)

include starts segment

/-- The path has one segment. -/
theorem path_rewrites : Rewrites (path grammar false) tokens rest written (.ofSegments false false first []) := by
  have noColons : Takes (Reader.mark? "::") [] (tokens ++ rest) false := noMark_takes (starts.noMark "::" (by decide))
  refine .sees (starts.noMark "<" (by decide)) (noColons.skip ?_)
  exact segment.give ((furtherSegments_takes ends).give (.pure _))

theorem pathType_rewrites (allowsSum : Bool) : Rewrites (pathType grammar allowsSum false) tokens rest written
    (ReadPath.ofSegments false false first []).type := by
  have noMacro : startsMacroSign rest = false := by rw [startsMacroSign, ends.noMark "!" rfl, Bool.false_and]
  refine (path_rewrites ends starts segment).give (.sees noMacro ?_)
  rw [Bool.and_false]
  refine .sees (ends.noMark "+" rfl) ?_
  rw [Bool.and_false]
  exact .pure _

end

section

variable {grammar : Grammar} {allowsSum : Bool} {tokens rest written : List Token}

/-- A type that starts with a name is a path. -/
theorem pathForm_rewrites {name : String} (isName : name ∉ keywords) {place : Location} {form : WrittenType}
    (isPath : Rewrites (pathType grammar allowsSum false) (wordAt name place :: tokens) rest written form) :
    Rewrites (typeForm grammar allowsSum) (wordAt name place :: tokens) rest written form := by
  have isStart : startsPath ((wordAt name place :: tokens) ++ rest) = true := by
    simp [startsPath, isName_name isName place]
  refine .sees (isWord_name isName place _ "for" (by decide)) (.sees (rfl : _ = false) ?_)
  exact .sees (anyWord_name isName place _ (by decide)) (.sees isStart isPath)

/-- A type that starts with a bracket is a slice. -/
theorem sliceForm_rewrites {element : WrittenType} {opened closed : Location}
    (inner : Rewrites (grammar.type true) tokens (⟨.closing .bracket, closed⟩ :: rest) written element) :
    Rewrites (typeForm grammar allowsSum)
      (⟨.opening .bracket, opened⟩ :: (tokens ++ [⟨.closing .bracket, closed⟩])) rest
      (⟨.opening .bracket, opened⟩ :: (written ++ [⟨.closing .bracket, closed⟩])) (.slice [] element) := by
  have noLength : Takes (Reader.mark? ";") [] (⟨.closing .bracket, closed⟩ :: rest) false := noMark_takes rfl
  have isSlice : Rewrites (bracketType grammar)
      (⟨.opening .bracket, opened⟩ :: (tokens ++ [⟨.closing .bracket, closed⟩])) rest
        (⟨.opening .bracket, opened⟩ :: (written ++ [⟨.closing .bracket, closed⟩])) (.slice [] element) :=
    .within rfl rfl (inner.give (noLength.skip (.pure _)))
  refine .sees (rfl : _ = false) (.sees (rfl : _ = false) (.sees (rfl : _ = false) ?_))
  exact .sees (rfl : _ = false) (.sees (rfl : _ = false) (.sees (rfl : _ = true) isSlice))

theorem type_rewrites {form : WrittenType} (taken : Rewrites (typeForm grammar allowsSum) tokens rest written form) :
    Rewrites (Source.type grammar allowsSum) tokens rest written (form.withTokens written) :=
  taken.capture.give (.pure _)

end

/-- With enough levels the tokens of a type are read as the type. -/
theorem PlainType.IsWritten.type_reads {type : PlainType} {tokens : List Token} (isWritten : type.IsWritten tokens)
    (named : type.HasNames) {levels : Nat} (enough : type.depth ≤ levels) {rest : List Token} (ends : EndsType rest)
    (allowsSum : Bool) : ∃ written found,
      Rewrites ((Grammar.level levels).type allowsSum) tokens rest written found ∧ found.Spells type := by
  -- Each level of the grammar reads one of the type; what stands behind an inner type is the sign that encloses it.
  induction isWritten generalizing levels rest allowsSum with
  | named name place =>
      obtain ⟨fewer, rfl⟩ := Nat.exists_eq_add_of_le' enough
      have starts : StartsType ([wordAt name place] ++ rest) := .inl ⟨name, place, rest, named.notKeyword, rfl⟩
      have segment : Takes (pathSegment (Grammar.level fewer) false) [wordAt name place] rest ⟨name, .absent⟩ :=
        plainSegment_takes named.notKeyword ends
      have form := pathForm_rewrites named.notKeyword (pathType_rewrites ends starts segment allowsSum)
      exact ⟨_, _, type_rewrites form, .named _ name⟩
  | applied name argument tokens place opened closed joint isWritten inductionHypothesis =>
      obtain ⟨fewer, rfl⟩ := Nat.exists_eq_add_of_le' (Nat.le_of_add_left_le enough)
      have closes : EndsType (⟨.mark '>' joint, closed⟩ :: rest) := by
        intro token isHead
        cases isHead
        exact .inl ⟨joint, rfl⟩
      obtain ⟨_, _, inner, spells⟩ := inductionHypothesis named.2 (Nat.le_of_succ_le_succ enough) closes true
      have segment : Rewrites (pathSegment (Grammar.level fewer) false)
          (wordAt name place :: markAt '<' opened :: (tokens ++ [⟨.mark '>' joint, closed⟩])) rest _ _ :=
        appliedSegment_rewrites named.1.notKeyword (isWritten.starts named.2 _) inner
      have starts : StartsType
          ((wordAt name place :: markAt '<' opened :: (tokens ++ [⟨.mark '>' joint, closed⟩])) ++ rest) :=
        .inl ⟨name, place, _, named.1.notKeyword, rfl⟩
      have form := pathForm_rewrites named.1.notKeyword (pathType_rewrites ends starts segment allowsSum)
      exact ⟨_, _, type_rewrites form, .applied _ name spells⟩
  | slice element tokens opened closed isWritten inductionHypothesis =>
      obtain ⟨fewer, rfl⟩ := Nat.exists_eq_add_of_le' (Nat.le_of_add_left_le enough)
      have closes : EndsType (⟨.closing .bracket, closed⟩ :: rest) := by
        intro token isHead
        cases isHead
        exact .inr ⟨.bracket, rfl⟩
      obtain ⟨_, _, inner, spells⟩ := inductionHypothesis named (Nat.le_of_succ_le_succ enough) closes true
      exact ⟨_, _, type_rewrites (sliceForm_rewrites inner), .slice _ spells⟩

/-- The type with this text. -/
def WrittenType.ofText (text : String) : Except SyntaxFault WrittenType :=
  match scan text.toList with
  | some tokens => (Reader.run ((Grammar.forLength tokens.length).type true) true tokens).map (·.2)
  | none => .error .noTokens

/-- The text of a type is read as the type. -/
theorem PlainType.ofText_text {type : PlainType} (named : type.HasNames) :
    ∃ found, WrittenType.ofText type.text = .ok found ∧ found.Spells type := by
  obtain ⟨tokens, scanned, isWritten⟩ := scan_text named
  have enough : type.depth ≤ 3 * tokens.length + 8 := by
    have := isWritten.depth_le
    omega
  have ends : EndsType [] := by
    intro token isHead
    cases isHead
  obtain ⟨written, found, rewrites, spells⟩ := isWritten.type_reads named enough ends true
  refine ⟨found, ?_, spells⟩
  rw [WrittenType.ofText, scanned]
  change (Reader.run ((Grammar.level _).type true) true tokens).map _ = _
  rw [rewrites.run]
  rfl

end ObjectMapping.Source
