/-
This file proves that the readers of single tokens, operators and brackets read and write phrases.
-/

import ObjectMapping.Proofs.Source.Progress

namespace ObjectMapping.Source

/-- The word can be a name: it is spelt as an identifier and no keyword. -/
structure IsPlainWord (text : String) : Prop where
  spelt : (Lexeme.word text).IsSpelt
  notKeyword : text ∉ keywords

theorem isName_notKeyword {text : String} {location : Location} {rest : List Token}
    (comes : Ahead.isName (⟨.word text, location⟩ :: rest)) : text ∉ keywords := by
  simpa [Ahead.isName] using comes

/-- Characters that can be written at once as marks. -/
structure IsOperator (chars : List Char) : Prop where
  spelt : ∀ char ∈ chars, (Lexeme.mark char false).IsSpelt
  chained : chars.IsChain fun left right => left = '/' → right ≠ '/' ∧ right ≠ '*'

namespace IsOperator

/-- The tokens of an operator are a phrase: the last of them is not joint. -/
theorem phrase {chars : List Char} (operator : IsOperator chars) (location : Location) (start : Nat) :
    IsPhrase ((chars.zipIdx start).map fun (char, index) =>
      ⟨.mark char (index + 1 < start + chars.length), location⟩) := by
  induction chars generalizing start with
  | nil => exact .nil
  | cons char rest inductionHypothesis =>
      have spelt := operator.spelt char List.mem_cons_self
      cases rest with
      | nil => exact .single spelt rfl (by simp)
      | cons next others =>
          have restPhrase := inductionHypothesis
            ⟨(List.forall_mem_cons.mp operator.spelt).2, operator.chained.tail⟩ (start + 1)
          rw [show start + 1 + (next :: others).length = start + (char :: next :: others).length by
            simp only [List.length_cons]; omega] at restPhrase
          obtain ⟨precedes, _⟩ := List.isChain_cons_cons.mp operator.chained
          have markBalanced := @IsBalanced.single
            ⟨.mark char (start + 1 < start + (char :: next :: others).length), location⟩ rfl
          refine ⟨?_, ?_, markBalanced.append restPhrase.balanced, ?_⟩
          · exact List.forall_mem_cons.mpr ⟨spelt, restPhrase.spelt⟩
          · refine List.isChain_cons_cons.mpr ⟨?_, restPhrase.chained⟩
            intro slash joint
            obtain ⟨notSlash, notStar⟩ := precedes (Lexeme.mark.inj slash).1
            exact ⟨fun same => notSlash (Lexeme.mark.inj same).1,
              fun same => notStar (Lexeme.mark.inj same).1⟩
          · intro last isLast
            exact restPhrase.ends last (by simpa using isLast)

end IsOperator

/-- An operator without slashes can be written out. -/
theorem glued_phrase (operator : String) (location : Location)
    (plain : operator.toList.all fun char => markChars.contains char && char != '\x27' && char != '/') :
    IsPhrase (Reader.glued operator location) := by
  have plain (char : Char) (member : char ∈ operator.toList) :
      char ∈ markChars ∧ char ≠ '\x27' ∧ char ≠ '/' := by
    simpa [and_assoc] using List.all_eq_true.mp plain char member
  have isOperator : IsOperator operator.toList :=
    ⟨fun char member => Lexeme.mark_isSpelt false (plain char member).1 (plain char member).2.1,
      List.isChain_iff_forall_rel_of_append_cons_cons.mpr fun left _ _ _ split slash =>
        absurd slash (plain left (by simp [split])).2.2⟩
  simpa [Reader.glued] using isOperator.phrase location 0

theorem isOperator_head {char : Char} {rest : List Char} {tokens : List Token}
    (starts : Ahead.isOperator (char :: rest) tokens) :
    ∃ joint, tokens.head?.map (·.lexeme) = some (.mark char joint) := by
  cases tokens with
  | nil => cases starts
  | cons token others =>
      obtain ⟨lexeme, location⟩ := token
      cases lexeme with
      | mark found joint =>
          simp only [Ahead.isOperator, Bool.and_eq_true, beq_iff_eq] at starts
          exact ⟨joint, by simp [starts.1.1]⟩
      | _ => cases starts

/-- An operator that comes stands at the front of the tokens. -/
theorem isOperator_split {chars : List Char} {tokens : List Token} (source : IsSource tokens)
    (starts : Ahead.isOperator chars tokens) :
    IsOperator chars ∧ ∃ marks joint, tokens = marks ++ tokens.drop chars.length ∧ IsBalanced marks ∧
      marks.getLast?.map (·.lexeme) = chars.getLast?.map (.mark · joint) := by
  induction chars generalizing tokens with
  | nil => exact ⟨⟨nofun, .nil⟩, [], false, rfl, .nil, rfl⟩
  | cons char rest inductionHypothesis =>
      cases tokens with
      | nil => cases starts
      | cons token others =>
          obtain ⟨lexeme, location⟩ := token
          cases lexeme with
          | mark found joint =>
              simp only [Ahead.isOperator, Bool.and_eq_true, Bool.or_eq_true, beq_iff_eq] at starts
              obtain ⟨⟨rfl, isJoint⟩, restStarts⟩ := starts
              obtain ⟨operator, marks, lastJoint, split, balanced, ends⟩ :=
                inductionHypothesis source.tail restStarts
              have spelt : (Lexeme.mark found joint).IsSpelt := source.spelt _ List.mem_cons_self
              have markBalanced := @IsBalanced.single ⟨.mark found joint, location⟩ rfl
              refine ⟨⟨List.forall_mem_cons.mpr ⟨spelt, operator.spelt⟩,
                List.isChain_cons.mpr ⟨?_, operator.chained⟩⟩, ⟨.mark found joint, location⟩ :: marks, ?_⟩
              · intro next isNext slash
                obtain ⟨further, rfl⟩ := List.head?_eq_some_iff.mp isNext
                obtain ⟨nextJoint, isHead⟩ := isOperator_head restStarts
                have precedes := List.isChain_cons.mp source.chained
                simp only [List.isEmpty_cons, Bool.false_eq_true, false_or] at isJoint
                rw [slash, isJoint] at precedes
                obtain ⟨notSlash, notStar⟩ := precedes.1 _ (by rw [List.head?_map]; exact isHead) rfl
                  nextJoint
                exact ⟨fun same => notSlash (by rw [same]), fun same => notStar (by rw [same])⟩
              · rw [List.getLast?_cons, List.getLast?_cons]
                cases last : marks.getLast? <;> cases lastChar : rest.getLast? <;>
                  rw [last, lastChar] at ends
                · exact ⟨joint, congrArg (List.cons _) split, markBalanced.append balanced, rfl⟩
                · cases ends
                · cases ends
                · exact ⟨lastJoint, congrArg (List.cons _) split, markBalanced.append balanced, ends⟩
          | _ => cases starts

namespace Reader

/-- An operator that is taken can be written out in one piece. -/
theorem dropMark_ok {operator : String} {before after : Feed} {location : Location}
    (source : IsSource before.rest) (ran : dropMark operator before = .ok (location, after)) :
    IsPhrase (glued operator location) ∧ after.written = before.written ∧
      ∃ marks joint, before.rest = marks ++ after.rest ∧ IsBalanced marks ∧
        marks.getLast?.map (·.lexeme) = operator.toList.getLast?.map (.mark · joint) := by
  obtain ⟨feed, between, first, second⟩ := bind_ok ran
  cases first
  split at second
  · rename_i starts
    obtain ⟨isOperator, split⟩ := isOperator_split source starts
    cases second
    exact ⟨by simpa [glued] using isOperator.phrase _ 0, rfl, split⟩
  · cases second

/-- The operator does not end with a slash, which starts a comment with some of what can follow it. -/
def endsApart (operator : String) : Bool := operator.toList.getLast?.any (· != '/')

theorem dropMark_moves (operator : String) (apart : endsApart operator) :
    Moves (dropMark operator) fun location => IsPhrase (glued operator location) := by
  intro before after location source ran
  obtain ⟨phrase, unwritten, marks, joint, split, balanced, last⟩ := dropMark_ok source ran
  obtain ⟨char, isChar, notSlash⟩ := (Option.any_eq_true _ _).mp apart
  rw [isChar, Option.map_some] at last
  have nonempty : marks ≠ [] := by
    rintro rfl
    cases last
  refine ⟨⟨marks, [], split, unwritten, ?_, .nil⟩, phrase, fun _ => ?_⟩
  · rw [split] at source
    refine source.phrase balanced ?_
    intro found isLast same
    rw [List.getLast?_map, last, Option.mem_some] at isLast
    rw [← isLast] at same
    rw [(Lexeme.mark.inj same).1] at notSlash
    cases notSlash
  · rw [split, List.length_append]
    exact Nat.lt_add_of_pos_left (List.length_pos_of_ne_nil nonempty)

theorem dropMark_yields (operator : String) (apart : endsApart operator) :
    Yields (dropMark operator) fun location => IsPhrase (glued operator location) :=
  (dropMark_moves operator apart).yields

theorem mark_moves (operator : String) (apart : endsApart operator) :
    Moves (mark operator) fun _ => True :=
  (dropMark_moves operator apart).first fun _ phrase => write_reads phrase

theorem mark_reads (operator : String) (apart : endsApart operator) :
    Reads (mark operator) := (mark_moves operator apart).yields

/-- Any operator makes a phrase with what has to follow it. -/
theorem mark_then {α : Type} {next : Reader α} {Good : α → Prop} (operator : String)
    (moves : Moves next Good) : Yields (mark operator >>= fun _ => next) Good := by
  intro before after value source _ ran
  obtain ⟨_, between, first, second⟩ := bind_ok ran
  obtain ⟨location, dropped, dropRan, writeRan⟩ := bind_ok first
  obtain ⟨operatorPhrase, unwritten, marks, joint, split, balanced, _⟩ := dropMark_ok source dropRan
  cases writeRan
  rw [split] at source
  obtain ⟨⟨read, written, rest, out, readPhrase, phrase⟩, good, shorter⟩ :=
    @moves { dropped with written := (glued operator location).reverse ++ dropped.written } after value
      source.suffix second
  have rest : dropped.rest = read ++ after.rest := rest
  have nonempty : read ≠ [] := by
    rintro rfl
    have shorter : after.rest.length < dropped.rest.length := shorter trivial
    rw [rest, List.nil_append] at shorter
    exact Nat.lt_irrefl _ shorter
  rw [rest, ← List.append_assoc] at source
  refine ⟨⟨marks ++ read, glued operator location ++ written, ?_, ?_,
    source.phrase (balanced.append readPhrase.balanced) ?_, operatorPhrase.append phrase⟩, good⟩
  · rw [split, rest, List.append_assoc]
  · simp only [out, unwritten, List.reverse_append, List.append_assoc]
  · intro last isLast
    refine readPhrase.ends last ?_
    rw [List.getLast?_map] at isLast ⊢
    rwa [List.getLast?_append_of_ne_nil _ nonempty] at isLast

theorem mark?_moves (operator : String) (apart : endsApart operator) :
    MovesTo (· = true) (mark? operator) fun _ => True :=
  .seesIf ((mark_moves operator apart).first fun _ _ => .pure trivial) (.pure trivial nofun)

theorem mark?_reads (operator : String) (apart : endsApart operator) :
    Reads (mark? operator) := (mark?_moves operator apart).yields

/-- The separator stands between the phrases and can come last. -/
theorem YieldsFrom.separatedWithin {α : Type} {reader : Reader α} {Good : α → Prop}
    (yields : Yields reader Good) (stop : List Token → Bool) {separator : String}
    (apart : endsApart separator) (budget : Nat) :
    Yields (separatedWithin stop separator reader budget) fun found => ∀ value ∈ found, Good value := by
  induction budget with
  | zero => exact .refuse _
  | succ budget inductionHypothesis =>
      exact .seesIf (.pure nofun)
        (yields.bind fun _ good => .seesIf (.pure (List.forall_mem_singleton.mpr good))
          ((mark_reads separator apart).then
            (inductionHypothesis.bind fun _ others => .pure (List.forall_mem_cons.mpr ⟨good, others⟩))))

theorem YieldsFrom.separated {α : Type} {reader : Reader α} {Good : α → Prop}
    (yields : Yields reader Good) (stop : List Token → Bool) (separator : String)
    (apart : endsApart separator) :
    Yields (separated stop separator reader) fun found => ∀ value ∈ found, Good value :=
  budget_reads.bind fun _ _ => yields.separatedWithin stop apart _

theorem YieldsFrom.commaList {α : Type} {reader : Reader α} {Good : α → Prop}
    (yields : Yields reader Good) :
    Yields (commaList reader) fun found => ∀ value ∈ found, Good value := yields.separated _ "," rfl

theorem YieldsFrom.joined {α : Type} {reader : Reader α} {Good : α → Prop}
    (yields : Yields reader Good) (test : List Token → Bool) (separator : String)
    (apart : endsApart separator) :
    Yields (joined separator test reader) fun found => ∀ value ∈ found, Good value :=
  budget_reads.bind fun _ _ => yields.joinedWithin (mark_reads separator apart) _ _ _

theorem take_ok {phrase : String} {test : List Token → Bool} {before after : Feed} {token : Token}
    (ran : take phrase test before = .ok (token, after)) :
    ∃ rest, before.rest = token :: rest ∧ test (token :: rest) ∧ after = { before with rest := rest } := by
  obtain ⟨feed, between, first, second⟩ := bind_ok ran
  cases first
  cases split : before.rest with
  | nil =>
      simp only [split] at second
      cases second
  | cons head rest =>
      simp only [split] at second
      split at second
      · rename_i passes
        cases second
        exact ⟨rest, rfl, passes, rfl⟩
      · cases second

theorem pass_ok {phrase : String} {test : List Token → Bool} {before after : Feed} {token : Token}
    (ran : pass phrase test before = .ok (token, after)) :
    ∃ rest, before.rest = token :: rest ∧ test (token :: rest) ∧
      after = ⟨rest, token :: before.written, before.keepsOptions⟩ := by
  obtain ⟨found, between, first, second⟩ := bind_ok ran
  obtain ⟨rest, split, passes, rfl⟩ := take_ok first
  cases second
  exact ⟨rest, split, passes, rfl⟩

/-- What comes is neither a bracket nor a sign that could start a comment with what follows. -/
def StartsApart (tokens : List Token) : Prop :=
  ∀ token ∈ tokens.head?, token.lexeme.bracket? = none ∧ token.lexeme ≠ .mark '/' true

theorem take_moves {test : List Token → Bool} (apart : ∀ tokens, test tokens → StartsApart tokens)
    (phrase : String) :
    Moves (take phrase test) fun token => IsPhrase [token] ∧ ∃ rest, test (token :: rest) := by
  intro before after token source ran
  obtain ⟨rest, split, passes, rfl⟩ := take_ok ran
  obtain ⟨noBracket, noSlash⟩ := apart _ passes token rfl
  have spelt := source.spelt token.lexeme (by rw [split]; exact List.mem_cons_self)
  have single := IsPhrase.single spelt noBracket noSlash
  refine ⟨⟨[token], [], split, rfl, single, .nil⟩, ⟨single, rest, passes⟩, fun _ => ?_⟩
  rw [split]
  exact Nat.lt_succ_self _

theorem pass_moves {test : List Token → Bool} (apart : ∀ tokens, test tokens → StartsApart tokens)
    (phrase : String) :
    Moves (pass phrase test) fun token => IsPhrase [token] ∧ ∃ rest, test (token :: rest) :=
  (take_moves apart phrase).first fun _ good => (write_reads good.1).then (.pure good)

/-- A word comes. -/
def StartsWord (tokens : List Token) : Prop := ∃ text, tokens.head?.map (·.lexeme) = some (.word text)

theorem StartsWord.apart {tokens : List Token} (starts : StartsWord tokens) : StartsApart tokens := by
  obtain ⟨text, isWord⟩ := starts
  intro token isHead
  rw [isHead, Option.map_some, Option.some.injEq] at isWord
  rw [isWord]
  exact ⟨rfl, nofun⟩

theorem isWord_startsWord {text : String} {tokens : List Token} (comes : Ahead.isWord text tokens) :
    StartsWord tokens := by
  cases tokens with
  | nil => cases comes
  | cons token rest => exact ⟨text, by simpa [Ahead.isWord] using comes⟩

theorem isAnyWord_startsWord {tokens : List Token} (comes : Ahead.isAnyWord tokens) :
    StartsWord tokens := by
  cases tokens with
  | nil => cases comes
  | cons token rest =>
      obtain ⟨lexeme, location⟩ := token
      cases lexeme with
      | word text => exact ⟨text, rfl⟩
      | _ => cases comes

theorem isName_startsWord {tokens : List Token} (comes : Ahead.isName tokens) : StartsWord tokens := by
  cases tokens with
  | nil => cases comes
  | cons token rest =>
      obtain ⟨lexeme, location⟩ := token
      cases lexeme with
      | word text => exact ⟨text, rfl⟩
      | _ => cases comes

theorem isPathWord_startsWord {tokens : List Token} (comes : Ahead.isPathWord tokens) :
    StartsWord tokens := by
  obtain ⟨text, _, isWord⟩ := List.any_eq_true.mp comes
  exact isWord_startsWord isWord

theorem keyword_moves (text : String) : Moves (keyword text) fun _ => True :=
  (pass_moves (fun _ comes => (isWord_startsWord comes).apart) _).first fun _ _ => .pure trivial

theorem keyword_reads (text : String) : Reads (keyword text) := (keyword_moves text).yields

theorem keyword?_moves (text : String) : MovesTo (· = true) (keyword? text) fun _ => True :=
  .seesIf ((keyword_moves text).first fun _ _ => .pure trivial) (.pure trivial nofun)

theorem keyword?_reads (text : String) : Reads (keyword? text) := (keyword?_moves text).yields

/-- A word that is passed has the text of a word and passes the test. -/
theorem passTested_moves {test : List Token → Bool} (words : ∀ tokens, test tokens → StartsWord tokens)
    (phrase : String) : Moves (pass phrase test) fun token => (Lexeme.word token.lexeme.text).IsSpelt ∧
      ∃ rest, test (⟨.word token.lexeme.text, token.location⟩ :: rest) := by
  refine (pass_moves (fun _ comes => (words _ comes).apart) _).mono ?_
  rintro token ⟨phrase, rest, passes⟩
  obtain ⟨text, isWord⟩ := words _ passes
  obtain ⟨lexeme, location⟩ := token
  obtain rfl : lexeme = .word text := Option.some.inj isWord
  exact ⟨phrase.spelt _ List.mem_cons_self, rest, passes⟩

theorem passWord_moves {test : List Token → Bool} (words : ∀ tokens, test tokens → StartsWord tokens)
    (phrase : String) : Moves (pass phrase test) fun token => (Lexeme.word token.lexeme.text).IsSpelt :=
  (passTested_moves words phrase).mono fun _ => And.left

theorem passName_moves (phrase : String) :
    Moves (pass phrase Ahead.isName) fun token => IsPlainWord token.lexeme.text :=
  (passTested_moves (fun _ => isName_startsWord) phrase).mono fun _ ⟨spelt, _, passes⟩ =>
    ⟨spelt, isName_notKeyword passes⟩

/-- The text that a reader of words gives is that of a word. -/
theorem wordWhere_moves {test : List Token → Bool} (words : ∀ tokens, test tokens → StartsWord tokens) :
    Moves (wordWhere test) fun text => (Lexeme.word text).IsSpelt :=
  (passWord_moves words _).first fun _ spelt => .pure spelt

theorem name_moves : Moves name fun text => (Lexeme.word text).IsSpelt :=
  wordWhere_moves fun _ => isName_startsWord

theorem anyWord_moves : Moves anyWord fun text => (Lexeme.word text).IsSpelt :=
  wordWhere_moves fun _ => isAnyWord_startsWord

theorem nameOr_moves (text : String) : Moves (nameOr text) fun text => (Lexeme.word text).IsSpelt :=
  wordWhere_moves fun _ comes =>
    (Bool.or_eq_true_iff.mp comes).elim isName_startsWord isWord_startsWord

theorem name_yields : Yields name fun text => (Lexeme.word text).IsSpelt := name_moves.yields

/-- What is read is a name. -/
theorem name_names : Yields name IsPlainWord := (passName_moves _).yields.bind fun _ named => .pure named

theorem anyWord_yields : Yields anyWord fun text => (Lexeme.word text).IsSpelt := anyWord_moves.yields

theorem nameOr_yields (text : String) : Yields (nameOr text) fun text => (Lexeme.word text).IsSpelt :=
  (nameOr_moves text).yields

/-- What is read is a name, unless it is the word that can take its place. -/
theorem nameOr_names (text : String) : Yields (nameOr text) fun found => found = text ∨ IsPlainWord found := by
  have words (tokens : List Token) (comes : Ahead.isName tokens || Ahead.isWord text tokens) : StartsWord tokens :=
    (Bool.or_eq_true_iff.mp comes).elim isName_startsWord isWord_startsWord
  refine ((passTested_moves words _).yields).bind fun token ⟨spelt, _, passes⟩ => .pure ?_
  obtain isName | isWord := Bool.or_eq_true_iff.mp passes
  · exact .inr ⟨spelt, isName_notKeyword isName⟩
  · exact .inl (by simpa [Ahead.isWord] using isWord)

theorem lifetime_moves : Moves lifetime fun _ => True := by
  refine (pass_moves (fun tokens comes => ?_) _).first fun _ _ => .pure trivial
  rintro ⟨lexeme, location⟩ isHead
  obtain ⟨rest, rfl⟩ := List.head?_eq_some_iff.mp isHead
  cases lexeme with
  | lifetime text => exact ⟨rfl, nofun⟩
  | _ => cases comes

theorem lifetime_reads : Reads lifetime := lifetime_moves.yields

theorem lifetime?_reads : Reads lifetime? := .seesIf lifetime_reads (.pure trivial)

theorem isLiteral_apart {tokens : List Token} (comes : Ahead.isLiteral tokens) : StartsApart tokens := by
  rintro ⟨lexeme, location⟩ isHead
  obtain ⟨rest, rfl⟩ := List.head?_eq_some_iff.mp isHead
  cases lexeme with
  | mark char joint =>
      refine ⟨rfl, ?_⟩
      rintro ⟨⟩
      simp [Ahead.isLiteral, Ahead.isPlainLiteral, Ahead.isWord, Ahead.isMark, Ahead.isOperator] at comes
  | opening => cases comes
  | closing => cases comes
  | _ => exact ⟨rfl, fun same => by cases same⟩

theorem literal_moves : Moves literal fun _ => True :=
  .seesIf (.refuse _)
    ((mark?_reads "-" rfl).second fun _ _ => (pass_moves (fun _ => isLiteral_apart) _).first
      fun _ _ => .pure trivial)

theorem literal_reads : Reads literal := literal_moves.yields

end Reader

namespace IsPhrase

/-- A phrase in brackets is a phrase. -/
theorem enclose {delimiter : Delimiter} {opening closing : Token} {inner : List Token}
    (opens : opening.lexeme = .opening delimiter) (closes : closing.lexeme = .closing delimiter)
    (phrase : IsPhrase inner) : IsPhrase (opening :: (inner ++ [closing])) := by
  refine ⟨?_, ?_, .enclose opens closes phrase.balanced, ?_⟩
  · rw [List.map_cons, List.map_append, List.map_singleton, opens, closes]
    refine List.forall_mem_cons.mpr ⟨Lexeme.opening_isSpelt _, ?_⟩
    exact List.forall_mem_append.mpr
      ⟨phrase.spelt, List.forall_mem_singleton.mpr (Lexeme.closing_isSpelt _)⟩
  · rw [List.map_cons, List.map_append, List.map_singleton, opens, closes]
    refine List.isChain_cons.mpr ⟨fun _ _ => .of_ne nofun, phrase.chained.append (.singleton _) ?_⟩
    exact fun last isLast _ _ => .of_ne (phrase.ends last isLast)
  · intro last isLast
    rw [List.map_cons, List.map_append, List.map_singleton, closes, ← List.cons_append,
      List.getLast?_concat] at isLast
    cases isLast
    nofun

end IsPhrase

namespace Reader

theorem within_moves {α : Type} {reader : Reader α} {Good : α → Prop} (delimiter : Delimiter)
    (yields : Yields reader Good) : Moves (within delimiter reader) Good := by
  intro before after value source ran
  obtain ⟨opening, opened, first, ran⟩ := bind_ok ran
  obtain ⟨inside, starts, opens, rfl⟩ := pass_ok first
  obtain ⟨found, between, bodyRan, ran⟩ := bind_ok ran
  rw [starts] at source
  obtain ⟨⟨read, written, rest, out, readPhrase, phrase⟩, good⟩ := yields source.tail trivial bodyRan
  obtain ⟨seen, unchanged, first, ran⟩ := bind_ok ran
  cases first
  split at ran
  · rename_i closes
    obtain ⟨closing, closed, first, ran⟩ := bind_ok ran
    obtain ⟨outside, ending, _, rfl⟩ := pass_ok first
    cases ran
    have opens : opening.lexeme = .opening delimiter := by simpa [Ahead.isOpening] using opens
    have closes : closing.lexeme = .closing delimiter := by simpa [ending] using closes
    have rest : inside = read ++ between.rest := rest
    have whole : before.rest = opening :: (read ++ [closing]) ++ outside := by
      simp only [starts, rest, ending, List.cons_append, List.append_assoc, List.nil_append]
    refine ⟨⟨opening :: (read ++ [closing]), opening :: (written ++ [closing]), whole, ?_,
      readPhrase.enclose opens closes, phrase.enclose opens closes⟩, good, fun _ => ?_⟩
    · simp only [out, List.reverse_cons, List.reverse_append, List.reverse_nil, List.cons_append,
        List.append_assoc, List.nil_append]
    · rw [whole, List.length_append, List.length_cons]
      exact Nat.lt_add_of_pos_left (Nat.succ_pos _)
  · cases ran

theorem within_yields {α : Type} {reader : Reader α} {Good : α → Prop} (delimiter : Delimiter)
    (yields : Yields reader Good) : Yields (within delimiter reader) Good :=
  (within_moves delimiter yields).yields

/-- What comes is a word or a bracket that opens. -/
def StartsTree (tokens : List Token) : Prop :=
  StartsWord tokens ∨ ∃ delimiter, Ahead.isOpening delimiter tokens

/-- A pair of brackets at the front of a source is a phrase with what it holds. -/
theorem skip_opening {delimiter : Delimiter} {tokens : List Token} (source : IsSource tokens)
    (opens : Ahead.isOpening delimiter tokens) :
    ∃ read, tokens = read ++ Ahead.skip tokens ∧ IsPhrase read := by
  cases tokens with
  | nil => cases opens
  | cons token rest =>
      obtain ⟨lexeme, location⟩ := token
      obtain rfl : lexeme = .opening delimiter := by simpa [Ahead.isOpening] using opens
      obtain ⟨unclosed, balanced⟩ := source.closes
      obtain ⟨front, closing, split, closes, matching⟩ :=
        @afterClosing_split [] delimiter unclosed rest balanced
      have skipped : Ahead.skip (⟨.opening delimiter, location⟩ :: rest) = Ahead.afterClosing 0 rest := rfl
      have whole : (⟨.opening delimiter, location⟩ : Token) :: rest =
          (⟨.opening delimiter, location⟩ :: (front ++ [closing])) ++ Ahead.afterClosing 0 rest := by
        rw [List.cons_append, List.append_assoc, List.singleton_append]
        exact congrArg (List.cons _) split
      refine ⟨⟨.opening delimiter, location⟩ :: (front ++ [closing]), skipped ▸ whole, ?_⟩
      rw [whole] at source
      refine source.phrase ?_ ?_
      · intro others following
        rw [List.cons_append, List.append_assoc, isBalanced_cons]
        refine (matching others _).trans ?_
        rw [List.singleton_append, isBalanced_cons, closes]
        simp [Lexeme.bracket?, afterBracket?]
      · intro last isLast
        rw [List.getLast?_map, ← List.cons_append, List.getLast?_concat] at isLast
        cases isLast
        show closing.lexeme ≠ _
        rw [closes]
        intro same
        cases same

theorem skip_word {tokens : List Token} (source : IsSource tokens) (starts : StartsWord tokens) :
    ∃ read, tokens = read ++ Ahead.skip tokens ∧ IsPhrase read := by
  obtain ⟨text, isWord⟩ := starts
  obtain ⟨⟨lexeme, location⟩, isHead, same⟩ := Option.map_eq_some_iff.mp isWord
  obtain ⟨rest, rfl⟩ := List.head?_eq_some_iff.mp isHead
  obtain rfl : lexeme = .word text := same
  exact ⟨[⟨.word text, location⟩], rfl, .single (source.spelt _ List.mem_cons_self) rfl nofun⟩

theorem tree_reads : YieldsFrom StartsTree tree fun _ => True := by
  intro before after value source starts ran
  obtain ⟨read, split, phrase⟩ : ∃ read, before.rest = read ++ Ahead.skip before.rest ∧ IsPhrase read :=
    starts.elim (skip_word source) fun ⟨_, opens⟩ => skip_opening source opens
  obtain ⟨start, between, first, ran⟩ := bind_ok ran
  cases first
  split at ran
  · cases ran
  · obtain ⟨_, written, first, ran⟩ := bind_ok ran
    cases first
    cases ran
    exact ⟨⟨read, read, split, by rw [front_taken split], phrase, phrase⟩, trivial⟩

theorem brackets_reads : Reads brackets := by
  intro before after value source _ ran
  obtain ⟨start, unchanged, first, ran⟩ := bind_ok ran
  cases first
  cases found : Delimiter.all.find? fun delimiter => Ahead.isOpening delimiter before.rest with
  | none =>
      simp only [found] at ran
      cases ran
  | some delimiter =>
      simp only [found] at ran
      have opens : Ahead.isOpening delimiter before.rest := by simpa using List.find?_some found
      exact tree_reads.capture.give source (.inr ⟨delimiter, opens⟩) ran

end Reader

end ObjectMapping.Source
