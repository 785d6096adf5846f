/-
This file follows readers over given tokens. A reader takes them in front of the rest and writes others out for them,
which are the same where it takes them as they stand.
-/

import ObjectMapping.Proofs.Source.Primitive

namespace ObjectMapping.Source

namespace Reader

section

variable {α β : Type} {reader : Reader α} {tokens others rest written further : List Token} {found : α} {value : β}

/-- In front of the rest the reader takes the tokens, writes the other ones out and gives the value. -/
def Rewrites (reader : Reader α) (tokens rest written : List Token) (value : α) : Prop :=
  ∀ before keepsOptions, reader ⟨tokens ++ rest, before, keepsOptions⟩ =
    .ok (value, ⟨rest, written.reverse ++ before, keepsOptions⟩)

/-- In front of the rest the reader takes the tokens, writes them out as they stand and gives the value. -/
abbrev Takes (reader : Reader α) (tokens rest : List Token) (value : α) : Prop :=
  Rewrites reader tokens rest tokens value

namespace Rewrites

theorem pure (value : α) : Rewrites (pure value) [] rest [] value := fun _ _ => rfl

theorem bind {next : α → Reader β} (first : Rewrites reader tokens (others ++ rest) written found)
    (second : Rewrites (next found) others rest further value) :
    Rewrites (reader >>= next) (tokens ++ others) rest (written ++ further) value := by
  intro before keepsOptions
  change Except.bind (reader _) (fun step => next step.1 step.2) = _
  rw [List.append_assoc, first, List.reverse_append, List.append_assoc]
  exact second _ _

/-- The first reader takes nothing. -/
theorem skip {next : α → Reader β} (first : Rewrites reader [] (tokens ++ rest) [] found)
    (second : Rewrites (next found) tokens rest written value) :
    Rewrites (reader >>= next) tokens rest written value := first.bind second

/-- The second reader takes nothing. -/
theorem give {next : α → Reader β} (first : Rewrites reader tokens rest written found)
    (second : Rewrites (next found) [] rest [] value) : Rewrites (reader >>= next) tokens rest written value := by
  have whole : Rewrites (reader >>= next) (tokens ++ []) rest (written ++ []) value := first.bind second
  rwa [List.append_nil, List.append_nil] at whole

/-- The first reader takes one token. -/
theorem cons {next : α → Reader β} {token : Token} (first : Rewrites reader [token] (others ++ rest) written found)
    (second : Rewrites (next found) others rest further value) :
    Rewrites (reader >>= next) (token :: others) rest (written ++ further) value := first.bind second

/-- What follows a test depends on its answer. -/
theorem sees {test : List Token → Bool} {answer : Bool} {next : Bool → Reader β}
    (answers : test (tokens ++ rest) = answer) (second : Rewrites (next answer) tokens rest written value) :
    Rewrites (Reader.sees test >>= next) tokens rest written value := by
  intro before keepsOptions
  change next (test (tokens ++ rest)) _ = _
  rw [answers]
  exact second _ _

theorem capture (body : Rewrites reader tokens rest written found) :
    Rewrites (capture reader) tokens rest written (written, found) := by
  intro before keepsOptions
  change Except.bind (reader _) _ = _
  rw [body, Except.bind, List.append_nil]
  change Except.ok ((written.reverse.reverse, found), _) = _
  rw [List.reverse_reverse]

theorem withhold (body : Rewrites reader tokens rest written found) :
    Rewrites (withhold reader) tokens rest [] (written, found) := by
  intro before keepsOptions
  change Except.bind (reader _) _ = _
  rw [body, Except.bind, List.append_nil]
  change Except.ok ((written.reverse.reverse, found), _) = _
  rw [List.reverse_reverse]
  rfl

theorem pass {phrase : String} {test : List Token → Bool} {token : Token} (comes : test (token :: rest) = true) :
    Rewrites (pass phrase test) [token] rest [token] token := by
  intro before keepsOptions
  have taken : take phrase test ⟨token :: rest, before, keepsOptions⟩ =
      .ok (token, ⟨rest, before, keepsOptions⟩) := by
    change (if test (token :: rest) then _ else _ : Reader Token) _ = _
    rw [if_pos comes]
    rfl
  change Except.bind (take phrase test _) _ = _
  rw [List.singleton_append, taken]
  rfl

/-- The body takes all that stands in the brackets. -/
theorem within {delimiter : Delimiter} {opening closing : Token} (opens : opening.lexeme = .opening delimiter)
    (closes : closing.lexeme = .closing delimiter) (body : Rewrites reader tokens (closing :: rest) written found) :
    Rewrites (within delimiter reader) (opening :: (tokens ++ [closing])) rest (opening :: (written ++ [closing]))
      found := by
  have comes : Ahead.isOpening delimiter (opening :: ((tokens ++ [closing]) ++ rest)) = true := by
    simp [Ahead.isOpening, opens]
  have ends : ((closing :: rest).head?.any fun token => token.lexeme == .closing delimiter) = true := by
    simp [closes]
  exact (pass comes).cons (body.bind (.sees ends ((pass rfl).give (.pure found))))

theorem run (body : Rewrites reader tokens [] written found) (keepsOptions : Bool) :
    run reader keepsOptions tokens = .ok (written, found) := by
  have ran := body [] keepsOptions
  rw [List.append_nil, List.append_nil] at ran
  rw [Reader.run, ran]
  dsimp only
  rw [List.reverse_reverse]
  rfl

end Rewrites

/-- The first reader takes one token as it stands. -/
theorem Takes.cons {next : α → Reader β} {token : Token} (first : Takes reader [token] (others ++ rest) found)
    (second : Takes (next found) others rest value) : Takes (reader >>= next) (token :: others) rest value :=
  Rewrites.cons first second

end

end Reader

def wordAt (text : String) (location : Location) : Token := ⟨.word text, location⟩

def markAt (char : Char) (location : Location) : Token := ⟨.mark char false, location⟩

section

variable {name : String} (isName : name ∉ keywords) (place : Location) (rest : List Token)
include isName

theorem isName_name : Ahead.isName (wordAt name place :: rest) = true := by
  simpa [wordAt, Ahead.isName] using isName

/-- A name is none of the words that mean something else. -/
theorem isWord_name : ∀ text ∈ keywords, Ahead.isWord text (wordAt name place :: rest) = false := by
  intro text isKeyword
  refine beq_eq_false_iff_ne.mpr fun same => isName ?_
  exact (Lexeme.word.inj same) ▸ isKeyword

theorem anyWord_name {texts : List String} (areKeywords : ∀ text ∈ texts, text ∈ keywords) :
    texts.any (fun text => Ahead.isWord text (wordAt name place :: rest)) = false :=
  List.any_eq_false.mpr fun text present =>
    Bool.not_eq_true _ ▸ isWord_name isName place rest text (areKeywords text present)

end

end ObjectMapping.Source
