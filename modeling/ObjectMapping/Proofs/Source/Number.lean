/-
This file proves where numbers end. A number with its suffix that is read off the front of a text is read
off every text that it starts, as long as a separator follows it there.
-/

import ObjectMapping.Proofs.Source.Literal

namespace ObjectMapping.Source

open Text

/-- What can stand right behind a word or a literal. -/
def separators : List Char := [' ', ')', ']', '<', '>']

def isSeparator (char : Char) : Bool := separators.contains char

/-- Whether a text is empty or starts with what can stand right behind a word or a literal. -/
def IsSeparated (text : List Char) : Prop := ∀ char ∈ text.head?, isSeparator char

/-- A class of characters without separators holds no head of a separated text. -/
theorem IsSeparated.head?_any {text : List Char} (separated : IsSeparated text) (test : Char → Bool)
    (none : separators.any test = false) : text.head?.any test = false := by
  cases text with
  | nil => rfl
  | cons char rest =>
      have separator := separated char rfl
      simpa using List.any_eq_false.mp none char (List.contains_iff_mem.mp separator)

/-- A word behind a literal, or nothing. -/
def IsSuffix (text : List Char) : Prop :=
  text = [] ∨ ∃ first others, text = first :: others ∧ isIdentifierStart first ∧
    ∀ char ∈ others, isIdentifierContinue char

/-- Characters that satisfy the test are dropped in front of a text that starts with none. -/
theorem dropWhile_append_stop {test : Char → Bool} {front other : List Char}
    (holds : ∀ char ∈ front, test char) (stop : other.head?.any test = false) :
    (front ++ other).dropWhile test = other := by
  rw [List.dropWhile_append_of_pos holds]
  cases other with
  | nil => rfl
  | cons char rest => exact List.dropWhile_cons_of_neg (by simpa using stop)

theorem dropWhile_head?_any (test : Char → Bool) (text : List Char) :
    (text.dropWhile test).head?.any test = false := by
  have head := List.head?_dropWhile_not test text
  cases found : (text.dropWhile test).head? with
  | none => rfl
  | some char => simpa [found] using head

theorem takeWhile_holds (test : Char → Bool) (text : List Char) :
    ∀ char ∈ text.takeWhile test, test char :=
  fun _ member => List.mem_takeWhile_imp member

theorem afterWord?_some {text rest : List Char} (found : afterWord? text = some rest) :
    ∃ first others, text = first :: (others ++ rest) ∧ isIdentifierStart first ∧
      (∀ char ∈ others, isIdentifierContinue char) ∧ rest.head?.any isIdentifierContinue = false := by
  cases text with
  | nil => cases found
  | cons first following =>
      by_cases start : isIdentifierStart first
      · rw [afterWord?, if_pos start] at found
        cases found
        refine ⟨first, following.takeWhile isIdentifierContinue, ?_, start,
          takeWhile_holds _ _, dropWhile_head?_any _ _⟩
        rw [List.takeWhile_append_dropWhile]
      · rw [afterWord?, if_neg start] at found
        cases found

theorem afterWord?_append {first : Char} {others rest : List Char} (start : isIdentifierStart first)
    (continues : ∀ char ∈ others, isIdentifierContinue char)
    (stop : rest.head?.any isIdentifierContinue = false) :
    afterWord? (first :: (others ++ rest)) = some rest := by
  rw [afterWord?, if_pos start, dropWhile_append_stop continues stop]

theorem afterWord?_none {text : List Char} (noStart : text.head?.any isIdentifierStart = false) :
    afterWord? text = none := by
  cases text with
  | nil => rfl
  | cons char rest => exact if_neg (by simpa using noStart)

/-- What precedes the rest behind a suffix is a suffix. -/
theorem afterSuffix_split (text : List Char) :
    ∃ suffix, IsSuffix suffix ∧ text = suffix ++ afterSuffix text := by
  unfold afterSuffix
  cases found : afterWord? text with
  | none => exact ⟨[], .inl rfl, rfl⟩
  | some rest =>
      obtain ⟨first, others, same, start, continues, _⟩ := afterWord?_some found
      exact ⟨first :: others, .inr ⟨first, others, rfl, start, continues⟩, same⟩

theorem afterSuffix_append {suffix rest : List Char} (isSuffix : IsSuffix suffix)
    (separated : IsSeparated rest) : afterSuffix (suffix ++ rest) = rest := by
  obtain rfl | ⟨first, others, rfl, start, continues⟩ := isSuffix
  · rw [List.nil_append, afterSuffix, afterWord?_none (separated.head?_any _ rfl)]
    rfl
  · rw [afterSuffix, List.cons_append, afterWord?_append start continues (separated.head?_any _ rfl)]
    rfl

namespace Literal

/-- Two rests that a number ends in front of alike: they start alike, or the second is separated. -/
def EndsAlike (rest other : List Char) : Prop := other.head? = rest.head? ∨ IsSeparated other

theorem EndsAlike.ofSuffix (suffix rest : List Char) {other : List Char} (separated : IsSeparated other) :
    EndsAlike (suffix ++ rest) (suffix ++ other) := by
  cases suffix with
  | nil => exact .inr separated
  | cons char others => exact .inl rfl

theorem EndsAlike.append (front : List Char) {rest other : List Char} (alike : EndsAlike rest other) :
    EndsAlike (front ++ rest) (front ++ other) := by
  cases front with
  | nil => exact alike
  | cons char others => exact .inl rfl

theorem EndsAlike.head?_any {rest other : List Char} (alike : EndsAlike rest other)
    (test : Char → Bool) (stop : rest.head?.any test = false)
    (none : separators.any test = false) : other.head?.any test = false := by
  obtain head | separated := alike
  · rwa [head]
  · exact separated.head?_any test none

theorem afterNumberSuffix?_some {text rest : List Char} (found : afterNumberSuffix? text = some rest) :
    afterSuffix text = rest ∧ rest.head?.any isIdentifierContinue = false := by
  rw [afterNumberSuffix?] at found
  by_cases goesOn : (afterSuffix text).head?.any isIdentifierContinue
  · rw [if_pos goesOn] at found
    cases found
  · rw [if_neg goesOn] at found
    cases found
    exact ⟨rfl, by simpa using goesOn⟩

theorem afterNumberSuffix?_append {suffix rest : List Char} (isSuffix : IsSuffix suffix)
    (separated : IsSeparated rest) : afterNumberSuffix? (suffix ++ rest) = some rest := by
  unfold afterNumberSuffix?
  rw [afterSuffix_append isSuffix separated]
  simp only [separated.head?_any isIdentifierContinue rfl, Bool.false_eq_true, ↓reduceIte]

/-- An exponent with a value ends in front of all that cannot extend its digits. -/
theorem afterExponent?_ended {signed : Bool} {other : List Char}
    (stop : other.head?.any isDigitOrUnderscore = false) :
    afterExponent? signed true other = some other := by
  cases other with
  | nil => rfl
  | cons char following =>
      simp only [List.head?_cons, Option.any_some, isDigitOrUnderscore, Bool.or_eq_false_iff,
        beq_eq_false_iff_ne] at stop
      simp [afterExponent?, stop]

theorem afterExponent?_settles (signed valued : Bool) :
    Settles EndsAlike (afterExponent? signed valued) := by
  intro full rest found
  fun_induction afterExponent? signed valued full with
  | case1 signed =>
      cases found
      exact ⟨[], rfl, fun other alike => afterExponent?_ended (alike.head?_any _ rfl rfl)⟩
  | case2 => cases found
  | case3 signed char following sign =>
      cases found
      refine ⟨[], rfl, fun other alike => afterExponent?_ended (alike.head?_any _ ?_ rfl)⟩
      obtain rfl | rfl := sign <;> rfl
  | case4 => cases found
  | case5 signed valued char following sign notValued notSigned inductionHypothesis =>
      obtain ⟨text, same, others⟩ := inductionHypothesis found
      refine ⟨char :: text, by rw [same]; rfl, ?_⟩
      intro other alike
      rw [List.cons_append, afterExponent?, if_pos sign, if_neg notValued, if_neg notSigned]
      exact others other alike
  | case6 signed valued char following notSign digit inductionHypothesis =>
      obtain ⟨text, same, others⟩ := inductionHypothesis found
      refine ⟨char :: text, by rw [same]; rfl, ?_⟩
      intro other alike
      rw [List.cons_append, afterExponent?, if_neg notSign, if_pos digit]
      exact others other alike
  | case7 signed valued following notSign notDigit inductionHypothesis =>
      obtain ⟨text, same, others⟩ := inductionHypothesis found
      refine ⟨'_' :: text, by rw [same]; rfl, ?_⟩
      intro other alike
      rw [List.cons_append, afterExponent?, if_neg notSign, if_neg notDigit, if_pos rfl]
      exact others other alike
  | case8 signed char following notSign notDigit notUnderscore =>
      cases found
      refine ⟨[], rfl, fun other alike => afterExponent?_ended (alike.head?_any _ ?_ rfl)⟩
      simp [isDigitOrUnderscore, notDigit, notUnderscore]
  | case9 => cases found

theorem afterExponent?_separated {signed : Bool} {other : List Char} (separated : IsSeparated other) :
    afterExponent? signed false other = none := by
  cases other with
  | nil => rfl
  | cons char following =>
      have plain := separated.head?_any
        (fun char => char == '+' || char == '-' || isDecimalDigit char || char == '_') rfl
      simp only [List.head?_cons, Option.any_some, Bool.or_eq_false_iff, beq_eq_false_iff_ne] at plain
      simp [afterExponent?, plain]

theorem isIdentifierContinue_digit {char : Char} (digit : isDecimalDigit char) :
    isIdentifierContinue char := by
  have sevenBit : isSevenBit char := by
    simp only [isDecimalDigit, isSevenBit, Bool.and_eq_true, decide_eq_true_eq, Char.le_def,
      UInt32.le_iff_toNat_le] at digit ⊢
    exact Nat.lt_of_le_of_lt digit.2 (by decide)
  simp [isIdentifierContinue, sevenBit, digit]

/-- An exponent without a value stays so where another rest follows. -/
theorem afterExponent?_none {signed valued : Bool} {text rest other : List Char}
    (word : ∀ char ∈ text, isIdentifierContinue char)
    (stop : rest.head?.any isIdentifierContinue = false)
    (found : afterExponent? signed valued (text ++ rest) = none) (separated : IsSeparated other) :
    afterExponent? signed valued (text ++ other) = none := by
  induction text generalizing signed valued with
  | nil =>
      cases valued with
      | true =>
          have noDigit : rest.head?.any isDigitOrUnderscore = false := by
            cases rest with
            | nil => rfl
            | cons char following =>
                simp only [List.head?_cons, Option.any_some] at stop ⊢
                by_contra digit
                simp only [isDigitOrUnderscore, Bool.not_eq_false, Bool.or_eq_true, beq_iff_eq] at digit
                obtain digit | rfl := digit
                · simp [isIdentifierContinue_digit digit] at stop
                · exact absurd stop (by decide)
          rw [List.nil_append, afterExponent?_ended noDigit] at found
          cases found
      | false => exact afterExponent?_separated separated
  | cons char following inductionHypothesis =>
      simp only [List.mem_cons, forall_eq_or_imp] at word
      rw [List.cons_append, afterExponent?] at found ⊢
      by_cases sign : char = '+' ∨ char = '-'
      · exfalso
        obtain rfl | rfl := sign <;> exact absurd word.1 (by decide)
      · rw [if_neg sign] at found ⊢
        by_cases digit : isDecimalDigit char
        · rw [if_pos digit] at found ⊢
          exact inductionHypothesis word.2 found
        · rw [if_neg digit] at found ⊢
          by_cases underscore : char = '_'
          · rw [if_pos underscore] at found ⊢
            exact inductionHypothesis word.2 found
          · rw [if_neg underscore] at found ⊢
            cases valued with
            | true => cases found
            | false => rfl

/-- What an exponent leaves of a word ends with what stands behind the word. -/
theorem afterExponent?_suffix {signed valued : Bool} {text rest found : List Char}
    (separated : IsSeparated rest) (read : afterExponent? signed valued (text ++ rest) = some found) :
    ∃ left, found = left ++ rest ∧ ∀ char ∈ left, char ∈ text := by
  induction text generalizing signed valued with
  | nil =>
      cases valued with
      | true =>
          rw [List.nil_append, afterExponent?_ended (separated.head?_any _ rfl)] at read
          cases read
          exact ⟨[], rfl, by simp⟩
      | false =>
          rw [List.nil_append, afterExponent?_separated separated] at read
          cases read
  | cons char following inductionHypothesis =>
      have extended {left : List Char} (within : ∀ next ∈ left, next ∈ following) :
          ∀ next ∈ left, next ∈ char :: following :=
        fun next member => List.mem_cons_of_mem char (within next member)
      rw [List.cons_append, afterExponent?] at read
      split at read
      · split at read
        · cases read
          exact ⟨char :: following, rfl, fun _ member => member⟩
        · split at read
          · cases read
          · obtain ⟨left, same, within⟩ := inductionHypothesis read
            exact ⟨left, same, extended within⟩
      · split at read
        · obtain ⟨left, same, within⟩ := inductionHypothesis read
          exact ⟨left, same, extended within⟩
        · split at read
          · obtain ⟨left, same, within⟩ := inductionHypothesis read
            exact ⟨left, same, extended within⟩
          · split at read
            · cases read
              exact ⟨char :: following, rfl, fun _ member => member⟩
            · cases read

/-- What follows the digits behind the point of a number, with an exponent taken off. -/
def afterPointDigits : List Char → List Char
  | [] => []
  | char :: following =>
      if isExponentMark char then
        (afterExponent? false false following).getD (char :: following)
      else
        char :: following

/-- Whether what stands behind a point makes it belong to what comes after the number. -/
def isNoFraction (char : Char) : Bool := char == '.' || isIdentifierStart char

/-- What follows the point or exponent behind the digits of a number. -/
def fractionBehind? : List Char → Option (List Char)
  | '.' :: decimals =>
      if decimals.head?.any isNoFraction then none
      else some (afterPointDigits (decimals.dropWhile isDigitOrUnderscore))
  | char :: following => if isExponentMark char then afterExponent? false false following else none
  | [] => none

theorem afterFraction?_digits {digits rest : List Char} (head : digits.head?.any isDecimalDigit)
    (holds : ∀ char ∈ digits, isDigitOrUnderscore char)
    (stop : rest.head?.any isDigitOrUnderscore = false) :
    afterFraction? (digits ++ rest) = fractionBehind? rest := by
  have headDigit : (digits ++ rest).head?.any isDecimalDigit = true := by
    cases digits with
    | nil => cases head
    | cons char others => exact head
  rw [afterFraction?, headDigit, dropWhile_append_stop holds stop]
  simp only [Bool.not_true, Bool.false_eq_true, ↓reduceIte]
  split
  · next decimals =>
      rw [fractionBehind?]
      split
      · next noFraction => exact (if_pos noFraction).symm
      · next fraction =>
          refine Eq.trans ?_ (if_neg fraction).symm
          cases decimals.dropWhile isDigitOrUnderscore with
          | nil => rfl
          | cons char following =>
              simp only [afterPointDigits]
              split <;> rfl
  · next char following notPoint => rw [fractionBehind?.eq_2 _ _ notPoint]
  · rfl

theorem afterFraction?_parts {full rest : List Char} (found : afterFraction? full = some rest) :
    ∃ digits others, full = digits ++ others ∧ digits.head?.any isDecimalDigit ∧
      (∀ char ∈ digits, isDigitOrUnderscore char) ∧ others.head?.any isDigitOrUnderscore = false := by
  refine ⟨full.takeWhile isDigitOrUnderscore, full.dropWhile isDigitOrUnderscore,
    List.takeWhile_append_dropWhile.symm, ?_, takeWhile_holds _ _, dropWhile_head?_any _ _⟩
  cases full with
  | nil => cases found
  | cons char following =>
      by_cases digit : isDecimalDigit char
      · rw [List.takeWhile_cons_of_pos (by simp [isDigitOrUnderscore, digit])]
        simpa using digit
      · simp [afterFraction?, digit] at found

/-- A text without a suffix in front of it that a word character starts. -/
theorem afterPointDigits_settles {tail suffix rest : List Char}
    (isSuffix : IsSuffix suffix) (stop : rest.head?.any isIdentifierContinue = false)
    (found : afterPointDigits tail = suffix ++ rest) :
    ∃ exponent, tail = exponent ++ (suffix ++ rest) ∧ ∀ other, IsSeparated other →
      afterPointDigits (exponent ++ (suffix ++ other)) = suffix ++ other := by
  have plain (text : List Char) (notMark : text.head?.any isExponentMark = false) :
      afterPointDigits text = text := by
    cases text with
    | nil => rfl
    | cons char following => exact if_neg (by simpa using notMark)
  by_cases mark : tail.head?.any isExponentMark
  · cases tail with
    | nil => cases mark
    | cons char following =>
        rw [List.head?_cons, Option.any_some] at mark
        rw [afterPointDigits, if_pos mark] at found
        cases exponent : afterExponent? false false following with
        | some left =>
            rw [exponent, Option.getD_some] at found
            obtain ⟨text, same, others⟩ := afterExponent?_settles _ _ _ _ exponent
            refine ⟨char :: text, by rw [same, found, List.cons_append], ?_⟩
            intro other separated
            rw [List.cons_append, afterPointDigits, if_pos mark, others, Option.getD_some]
            rw [found]
            exact EndsAlike.ofSuffix suffix rest separated
        | none =>
            rw [exponent, Option.getD_none] at found
            refine ⟨[], found, ?_⟩
            intro other separated
            obtain rfl | ⟨first, others, rfl, start, continues⟩ := isSuffix
            · rw [List.nil_append] at found
              rw [← found] at stop
              simp only [List.head?_cons, Option.any_some, isExponentMark, Bool.or_eq_true,
                beq_iff_eq] at mark stop
              obtain rfl | rfl := mark <;> exact absurd stop (by decide)
            · cases found
              rw [List.nil_append, List.cons_append, afterPointDigits, if_pos mark,
                afterExponent?_none continues stop exponent separated, Option.getD_none]
  · simp only [Bool.not_eq_true] at mark
    rw [plain tail mark] at found
    refine ⟨[], found, ?_⟩
    intro other separated
    rw [found] at mark
    exact plain _ ((EndsAlike.ofSuffix suffix rest separated).head?_any _ mark rfl)

theorem fractionBehind?_settles {full suffix rest : List Char} (isSuffix : IsSuffix suffix)
    (stop : rest.head?.any isIdentifierContinue = false)
    (found : fractionBehind? full = some (suffix ++ rest)) :
    ∃ text, full = text ++ (suffix ++ rest) ∧ text ≠ [] ∧ ∀ other, IsSeparated other →
      fractionBehind? (text ++ (suffix ++ other)) = some (suffix ++ other) := by
  rcases full with _ | ⟨char, following⟩
  · cases found
  · by_cases point : char = '.'
    · subst point
      rw [fractionBehind?] at found
      by_cases noFraction : following.head?.any isNoFraction
      · rw [if_pos noFraction] at found
        cases found
      · rw [if_neg noFraction, Option.some.injEq] at found
        obtain ⟨exponent, same, others⟩ := afterPointDigits_settles isSuffix stop found
        have split : following =
            following.takeWhile isDigitOrUnderscore ++ (exponent ++ (suffix ++ rest)) := by
          rw [← same, List.takeWhile_append_dropWhile]
        refine ⟨'.' :: (following.takeWhile isDigitOrUnderscore ++ exponent), ?_, by simp, ?_⟩
        · rw [List.cons_append, List.append_assoc, ← split]
        · intro other separated
          have alike := (EndsAlike.ofSuffix suffix rest separated).append exponent
          have noDigit := dropWhile_head?_any isDigitOrUnderscore following
          rw [same] at noDigit
          have fraction : (following.takeWhile isDigitOrUnderscore ++
              (exponent ++ (suffix ++ other))).head?.any isNoFraction = false := by
            refine (alike.append _).head?_any isNoFraction ?_ rfl
            rw [← split]
            simpa using noFraction
          rw [List.cons_append, List.append_assoc, fractionBehind?, fraction,
            dropWhile_append_stop (takeWhile_holds _ _) (alike.head?_any _ noDigit rfl),
            others other separated]
          rfl
    · rw [fractionBehind?.eq_2 _ _ point] at found
      by_cases mark : isExponentMark char
      · rw [if_pos mark] at found
        obtain ⟨text, same, others⟩ := afterExponent?_settles _ _ _ _ found
        refine ⟨char :: text, by rw [same]; rfl, by simp, ?_⟩
        intro other separated
        rw [List.cons_append, fractionBehind?.eq_2 _ _ point, if_pos mark]
        exact others _ (EndsAlike.ofSuffix suffix rest separated)
      · rw [if_neg mark] at found
        cases found

theorem afterFraction?_settles {full suffix rest : List Char} (isSuffix : IsSuffix suffix)
    (stop : rest.head?.any isIdentifierContinue = false)
    (found : afterFraction? full = some (suffix ++ rest)) :
    ∃ text, full = text ++ (suffix ++ rest) ∧ text.head?.any isDecimalDigit ∧
      ∀ other, IsSeparated other →
        afterFraction? (text ++ (suffix ++ other)) = some (suffix ++ other) := by
  obtain ⟨digits, behind, rfl, head, holds, noDigit⟩ := afterFraction?_parts found
  rw [afterFraction?_digits head holds noDigit] at found
  obtain ⟨text, rfl, nonempty, others⟩ := fractionBehind?_settles isSuffix stop found
  have headDigit : (digits ++ text).head?.any isDecimalDigit = true := by
    cases digits with
    | nil => cases head
    | cons char following => exact head
  refine ⟨digits ++ text, by rw [List.append_assoc], headDigit, ?_⟩
  intro other separated
  have sameHead : (text ++ (suffix ++ other)).head?.any isDigitOrUnderscore = false := by
    rw [List.head?_append_of_ne_nil text nonempty] at noDigit ⊢
    exact noDigit
  rw [List.append_assoc, afterFraction?_digits head holds sameHead, others other separated]

/-- Whether a character cannot stand behind the digits of a number or would be one of them. -/
def goesOnDigits (base : Nat) (char : Char) : Bool :=
  char == '_' || (hexDigitValue? char).any fun value => decide (value < base) || isDecimalDigit char

theorem afterDigits?_ended {base : Nat} {other : List Char}
    (stop : other.head?.any (goesOnDigits base) = false) :
    afterDigits? base false other = some other := by
  cases other with
  | nil => rfl
  | cons char following =>
      simp only [List.head?_cons, Option.any_some, goesOnDigits, Bool.or_eq_false_iff,
        beq_eq_false_iff_ne] at stop
      cases digit : hexDigitValue? char with
      | none => simp [afterDigits?, stop, digit]
      | some value =>
          simp only [digit, Option.any_some, Bool.or_eq_false_iff, decide_eq_false_iff_not] at stop
          simp [afterDigits?, stop, digit]

theorem afterDigits?_settles (base : Nat) (isEmpty : Bool) :
    Settles EndsAlike (afterDigits? base isEmpty) := by
  intro full rest found
  fun_induction afterDigits? base isEmpty full with
  | case1 => cases found
  | case2 isEmpty notEmpty =>
      cases found
      refine ⟨[], rfl, ?_⟩
      intro other alike
      rw [List.nil_append, Bool.not_eq_true] at *
      rw [notEmpty]
      exact afterDigits?_ended (alike.head?_any _ rfl rfl)
  | case3 => cases found
  | case4 isEmpty following admitted inductionHypothesis =>
      obtain ⟨text, same, others⟩ := inductionHypothesis found
      refine ⟨'_' :: text, by rw [same]; rfl, ?_⟩
      intro other alike
      rw [List.cons_append, afterDigits?, if_pos rfl, if_neg admitted]
      exact others other alike
  | case5 isEmpty char following notUnderscore value digit small inductionHypothesis =>
      obtain ⟨text, same, others⟩ := inductionHypothesis found
      refine ⟨char :: text, by rw [same]; rfl, ?_⟩
      intro other alike
      rw [List.cons_append, afterDigits?, if_neg notUnderscore]
      simp only [digit, small, ↓reduceIte]
      exact others other alike
  | case6 => cases found
  | case7 isEmpty char following notUnderscore value digit large fits =>
      cases found
      refine ⟨[], rfl, ?_⟩
      intro other alike
      simp only [not_or, Bool.not_eq_true] at fits
      rw [List.nil_append, fits.1]
      refine afterDigits?_ended (alike.head?_any _ ?_ rfl)
      simp [goesOnDigits, notUnderscore, digit, large, fits.2]
  | case8 => cases found
  | case9 isEmpty char following notUnderscore digit notEmpty =>
      cases found
      refine ⟨[], rfl, ?_⟩
      intro other alike
      rw [Bool.not_eq_true] at notEmpty
      rw [List.nil_append, notEmpty]
      refine afterDigits?_ended (alike.head?_any _ ?_ rfl)
      simp [goesOnDigits, notUnderscore, digit]

theorem isDecimalDigit_of_value {char : Char} {value : Nat} (digit : hexDigitValue? char = some value)
    (small : value < 10) : isDecimalDigit char := by
  unfold hexDigitValue? at digit
  split at digit
  · next inside => simpa [isDecimalDigit] using inside
  · split at digit
    · cases digit
      omega
    · split at digit
      · cases digit
        omega
      · cases digit

/-- The digits of a decimal number. -/
theorem afterDigits?_decimal {isEmpty : Bool} {full rest : List Char}
    (found : afterDigits? 10 isEmpty full = some rest) :
    ∃ digits, full = digits ++ rest ∧ (∀ char ∈ digits, isDigitOrUnderscore char) ∧
      (isEmpty → digits.head?.any isDecimalDigit) ∧ rest.head?.any isDigitOrUnderscore = false := by
  induction full generalizing isEmpty with
  | nil =>
      cases isEmpty with
      | true => cases found
      | false =>
          cases found
          exact ⟨[], rfl, by simp, nofun, rfl⟩
  | cons char following inductionHypothesis =>
      rw [afterDigits?] at found
      by_cases underscore : char = '_'
      · subst underscore
        rw [if_pos rfl] at found
        cases isEmpty with
        | true => cases found
        | false =>
            obtain ⟨digits, same, holds, _, stop⟩ := inductionHypothesis found
            exact ⟨'_' :: digits, by rw [same]; rfl, by simpa [isDigitOrUnderscore] using holds,
              nofun, stop⟩
      · rw [if_neg underscore] at found
        cases digit : hexDigitValue? char with
        | none =>
            simp only [digit] at found
            cases isEmpty with
            | true => cases found
            | false =>
                cases found
                have noDigit : isDecimalDigit char = false := by
                  by_contra isDigit
                  simp only [isDecimalDigit, Bool.not_eq_false, Bool.and_eq_true,
                    decide_eq_true_eq] at isDigit
                  simp [hexDigitValue?, isDigit] at digit
                exact ⟨[], rfl, by simp, nofun, by simp [isDigitOrUnderscore, noDigit, underscore]⟩
        | some value =>
            simp only [digit] at found
            by_cases small : value < 10
            · rw [if_pos small] at found
              obtain ⟨digits, same, holds, _, stop⟩ := inductionHypothesis found
              have isDigit := isDecimalDigit_of_value digit small
              exact ⟨char :: digits, by rw [same]; rfl,
                by simpa [isDigitOrUnderscore, isDigit] using holds, fun _ => by simpa using isDigit, stop⟩
            · rw [if_neg small] at found
              by_cases refused : isEmpty = true ∨ isDecimalDigit char = true
              · rw [if_pos refused] at found
                cases found
              · rw [if_neg refused] at found
                cases found
                simp only [not_or, Bool.not_eq_true] at refused
                exact ⟨[], rfl, by simp, fun empty => absurd empty (by simp [refused.1]),
                  by simp [isDigitOrUnderscore, refused.2, underscore]⟩

/-- A number without a sign of another base stays one where another rest follows. -/
theorem noBase_append {sign : Char} {text rest other : List Char} (nonempty : text ≠ [])
    (alike : EndsAlike rest other) (plain : isSeparator sign = false)
    (absent : ∀ following, text ++ rest ≠ '0' :: sign :: following) :
    ∀ following, text ++ other ≠ '0' :: sign :: following := by
  intro following same
  rcases text with _ | ⟨first, _ | ⟨second, others⟩⟩
  · exact nonempty rfl
  · cases same
    obtain head | separated := alike
    · cases rest with
      | nil => cases head
      | cons char tail =>
          cases head
          exact absent tail rfl
    · have separator := separated sign rfl
      rw [plain] at separator
      cases separator
  · cases same
    exact absent (others ++ rest) rfl

/-- A whole number has the sign of another base or decimal digits only. -/
theorem afterWhole?_settles {full rest : List Char} (found : afterWhole? full = some rest) :
    ∃ text, full = text ++ rest ∧
      (∀ other, EndsAlike rest other → afterWhole? (text ++ other) = some other) ∧
      ((∃ sign digits, text = '0' :: sign :: digits ∧ sign ∈ ['x', 'o', 'b']) ∨
        text.head?.any isDecimalDigit ∧ (∀ char ∈ text, isDigitOrUnderscore char) ∧
          rest.head?.any isDigitOrUnderscore = false) := by
  fun_cases afterWhole? full with
  | case1 following =>
      obtain ⟨text, same, others⟩ := afterDigits?_settles _ _ _ _ found
      exact ⟨'0' :: 'x' :: text, by rw [same]; rfl, others, .inl ⟨'x', text, rfl, by simp⟩⟩
  | case2 following =>
      obtain ⟨text, same, others⟩ := afterDigits?_settles _ _ _ _ found
      exact ⟨'0' :: 'o' :: text, by rw [same]; rfl, others, .inl ⟨'o', text, rfl, by simp⟩⟩
  | case3 following =>
      obtain ⟨text, same, others⟩ := afterDigits?_settles _ _ _ _ found
      exact ⟨'0' :: 'b' :: text, by rw [same]; rfl, others, .inl ⟨'b', text, rfl, by simp⟩⟩
  | case4 _ notHex notOctal notBinary =>
      rw [afterWhole?.eq_4 _ notHex notOctal notBinary] at found
      obtain ⟨text, same, others⟩ := afterDigits?_settles _ _ _ _ found
      obtain ⟨digits, sameDigits, holds, head, stop⟩ := afterDigits?_decimal found
      obtain rfl : text = digits := List.append_cancel_right (same.symm.trans sameDigits)
      have nonempty : text ≠ [] := by
        rintro rfl
        cases head rfl
      refine ⟨text, same, ?_, .inr ⟨head rfl, holds, stop⟩⟩
      intro other alike
      subst same
      rw [afterWhole?.eq_4 _ (noBase_append nonempty alike rfl notHex)
        (noBase_append nonempty alike rfl notOctal) (noBase_append nonempty alike rfl notBinary)]
      exact others other alike

/-- Behind a word there is a suffix or the number is none. -/
theorem afterNumberSuffix?_word {left rest : List Char}
    (word : ∀ char ∈ left, isIdentifierContinue char) (separated : IsSeparated rest) :
    afterNumberSuffix? (left ++ rest) = none ∨ afterNumberSuffix? (left ++ rest) = some rest := by
  cases left with
  | nil => exact .inr (afterNumberSuffix?_append (.inl rfl) separated)
  | cons char others =>
      by_cases start : isIdentifierStart char
      · refine .inr (afterNumberSuffix?_append (.inr ⟨char, others, rfl, start, ?_⟩) separated)
        exact fun next member => word next (List.mem_cons_of_mem char member)
      · refine .inl ?_
        have goesOn : isIdentifierContinue char := word char List.mem_cons_self
        rw [afterNumberSuffix?, afterSuffix, afterWord?_none (by simpa using start)]
        simp [goesOn]

/-- Digits with a suffix in front of a separator are no number with a point or exponent other than one
that ends there. -/
theorem fractionBehind?_suffix {suffix rest : List Char} (isSuffix : IsSuffix suffix)
    (separated : IsSeparated rest) :
    (fractionBehind? (suffix ++ rest)).bind afterNumberSuffix? = none ∨
      (fractionBehind? (suffix ++ rest)).bind afterNumberSuffix? = some rest := by
  obtain rfl | ⟨first, others, rfl, start, continues⟩ := isSuffix
  · refine .inl ?_
    cases rest with
    | nil => rfl
    | cons char following =>
        have plain := separated.head?_any (fun char => char == '.' || isExponentMark char) rfl
        simp only [List.head?_cons, Option.any_some, Bool.or_eq_false_iff, beq_eq_false_iff_ne] at plain
        rw [List.nil_append, fractionBehind?.eq_2 _ _ plain.1, plain.2]
        rfl
  · have notPoint : first ≠ '.' := by
      rintro rfl
      exact absurd start (by decide)
    rw [List.cons_append, fractionBehind?.eq_2 _ _ notPoint]
    by_cases mark : isExponentMark first
    · rw [if_pos mark]
      cases exponent : afterExponent? false false (others ++ rest) with
      | none => exact .inl rfl
      | some found =>
          obtain ⟨left, rfl, within⟩ := afterExponent?_suffix separated exponent
          exact afterNumberSuffix?_word (fun char member => continues char (within char member)) separated
    · rw [if_neg mark]
      exact .inl rfl

theorem afterNumber?_settles {full rest : List Char} (found : afterNumber? full = some rest) :
    ∃ text, full = text ++ rest ∧ text.head?.any isDecimalDigit ∧ ∀ other, IsSeparated other →
      afterNumber? (text ++ other) = some other := by
  have headDigit {text : List Char} (suffix : List Char) (head : text.head?.any isDecimalDigit = true) :
      (text ++ suffix).head?.any isDecimalDigit = true := by
    cases text with
    | nil => cases head
    | cons char following => exact head
  unfold afterNumber? at found
  cases fraction : (afterFraction? full).bind afterNumberSuffix? with
  | some ended =>
      rw [fraction] at found
      cases found
      obtain ⟨left, read, suffixRead⟩ := Option.bind_eq_some_iff.mp fraction
      obtain ⟨suffix, isSuffix, same⟩ := afterSuffix_split left
      obtain ⟨rfl, stop⟩ := afterNumberSuffix?_some suffixRead
      rw [same] at read
      obtain ⟨text, split, head, others⟩ := afterFraction?_settles isSuffix stop read
      refine ⟨text ++ suffix, by rw [List.append_assoc]; exact split, headDigit suffix head, ?_⟩
      intro other separated
      rw [List.append_assoc, afterNumber?, others other separated, Option.bind_some,
        afterNumberSuffix?_append isSuffix separated]
  | none =>
      rw [fraction] at found
      obtain ⟨left, read, suffixRead⟩ := Option.bind_eq_some_iff.mp found
      obtain ⟨suffix, isSuffix, same⟩ := afterSuffix_split left
      obtain ⟨rfl, stop⟩ := afterNumberSuffix?_some suffixRead
      obtain ⟨text, split, others, shape⟩ := afterWhole?_settles read
      have head : text.head?.any isDecimalDigit = true := by
        obtain ⟨sign, digits, rfl, _⟩ | ⟨head, _⟩ := shape
        · rfl
        · exact head
      refine ⟨text ++ suffix, by rw [List.append_assoc, ← same]; exact split, headDigit suffix head, ?_⟩
      intro other separated
      have alike : EndsAlike left (suffix ++ other) := by
        rw [same]
        exact EndsAlike.ofSuffix suffix _ separated
      have noOther : (afterFraction? (text ++ (suffix ++ other))).bind afterNumberSuffix? = none ∨
          (afterFraction? (text ++ (suffix ++ other))).bind afterNumberSuffix? = some other := by
        obtain ⟨sign, digits, rfl, isSign⟩ | ⟨head, holds, noDigit⟩ := shape
        · refine .inl ?_
          simp only [List.mem_cons, List.not_mem_nil, or_false] at isSign
          obtain rfl | rfl | rfl := isSign <;> rfl
        · rw [afterFraction?_digits head holds (alike.head?_any _ noDigit rfl)]
          exact fractionBehind?_suffix isSuffix separated
      have whole : (afterWhole? (text ++ (suffix ++ other))).bind afterNumberSuffix? = some other := by
        rw [others _ alike, Option.bind_some, afterNumberSuffix?_append isSuffix separated]
      rw [List.append_assoc, afterNumber?]
      obtain none | some := noOther
      · rw [none]
        exact whole
      · rw [some]

/-- A text without a digit in front starts no number. -/
theorem afterNumber?_none {text : List Char} (noDigit : text.head?.any isDecimalDigit = false) :
    afterNumber? text = none := by
  cases found : afterNumber? text with
  | none => rfl
  | some rest =>
      obtain ⟨front, rfl, head, _⟩ := afterNumber?_settles found
      cases front with
      | nil => cases head
      | cons char others =>
          rw [List.cons_append, List.head?_cons, Option.any_some] at noDigit
          rw [List.head?_cons, Option.any_some, noDigit] at head
          cases head

end Literal

/-- The characters that literals start with. -/
def startsLiteral (char : Char) : Bool := Literal.startsQuoted char || isDecimalDigit char

theorem afterLiteral?_none {text : List Char} (plain : text.head?.any startsLiteral = false) :
    afterLiteral? text = none := by
  have noQuote : text.head?.any Literal.startsQuoted = false := by
    cases text with
    | nil => rfl
    | cons char following =>
        simp only [List.head?_cons, Option.any_some, startsLiteral, Bool.or_eq_false_iff] at plain ⊢
        exact plain.1
  have noDigit : text.head?.any isDecimalDigit = false := by
    cases text with
    | nil => rfl
    | cons char following =>
        simp only [List.head?_cons, Option.any_some, startsLiteral, Bool.or_eq_false_iff] at plain ⊢
        exact plain.2
  rw [afterLiteral?, Literal.afterQuoted?_none noQuote]
  exact Literal.afterNumber?_none noDigit

/-- A literal that is read off the front of a text is read off every text that it starts. -/
theorem afterLiteral?_settles {full rest : List Char} (found : afterLiteral? full = some rest) :
    ∃ text, full = text ++ rest ∧ text.head?.any startsLiteral ∧ ∀ other, IsSeparated other →
      afterLiteral? (text ++ other) = some other := by
  unfold afterLiteral? at found
  cases quoted : Literal.afterQuoted? full with
  | some left =>
      rw [quoted] at found
      cases found
      obtain ⟨suffix, isSuffix, same⟩ := afterSuffix_split left
      obtain ⟨text, split, others⟩ := Literal.afterQuoted?_local _ _ quoted
      have head : (text ++ suffix).head?.any startsLiteral := by
        rcases text with _ | ⟨char, following⟩
        · cases others [] trivial
        · by_contra plain
          have noQuote : (char :: following).head?.any Literal.startsQuoted = false := by
            simp only [List.cons_append, List.head?_cons, Option.any_some, startsLiteral,
              Bool.or_eq_true, not_or, Bool.not_eq_true] at plain
            exact plain.1
          have alone := others [] trivial
          rw [List.append_nil, Literal.afterQuoted?_none noQuote] at alone
          cases alone
      refine ⟨text ++ suffix, by rw [List.append_assoc, ← same]; exact split, head, ?_⟩
      intro other separated
      rw [List.append_assoc, afterLiteral?, others _ trivial]
      simp only [afterSuffix_append isSuffix separated]
  | none =>
      rw [quoted] at found
      obtain ⟨text, split, head, others⟩ := Literal.afterNumber?_settles found
      rcases text with _ | ⟨char, following⟩
      · cases head
      · have digit : isDecimalDigit char := head
        refine ⟨char :: following, split, by simp [startsLiteral, digit], ?_⟩
        intro other separated
        have noQuote : Literal.startsQuoted char = false := by
          by_contra quote
          simp only [Bool.not_eq_false, Literal.startsQuoted, List.contains_iff_mem] at quote
          have noDigits : ['"', '\x27', 'r', 'b', 'c'].all (fun char => !isDecimalDigit char) := by rfl
          have noDigit := List.all_eq_true.mp noDigits char quote
          simp [digit] at noDigit
        rw [afterLiteral?, Literal.afterQuoted?_none (by simpa using noQuote)]
        exact others other separated

end ObjectMapping.Source
