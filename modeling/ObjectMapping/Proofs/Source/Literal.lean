/-
This file proves where literals in quotes end. A literal that is read off the front of a text is read
off every text that it starts: the readers look at nothing behind the closing quote.
-/

import Mathlib.Data.List.Basic
import Mathlib.Data.List.TakeWhile
import ObjectMapping.Source.Literal

namespace ObjectMapping.Source.Literal

open Text

/-- A reader that reads the same of every text that starts alike, where the rest is one that the
condition admits in the place of the first rest. -/
def Settles (admits : List Char → List Char → Prop) (read : List Char → Option (List Char)) : Prop :=
  ∀ full rest, read full = some rest →
    ∃ text, full = text ++ rest ∧ ∀ other, admits rest other → read (text ++ other) = some other

/-- A reader that looks at nothing behind what it reads. -/
def IsLocal (read : List Char → Option (List Char)) : Prop := Settles (fun _ _ => True) read

theorem afterWideCode?_local (dialect : Dialect) (count value : Nat) :
    IsLocal (afterWideCode? dialect count value) := by
  intro full rest found
  induction full generalizing count value with
  | nil => cases found
  | cons char following inductionHypothesis =>
      cases digit : hexDigitValue? char with
      | some number =>
          simp only [afterWideCode?, digit] at found
          by_cases few : count < 6
          · rw [if_pos few] at found
            obtain ⟨text, same, others⟩ := inductionHypothesis _ _ found
            refine ⟨char :: text, by rw [same, List.cons_append], ?_⟩
            intro other admitted
            simp only [List.cons_append, afterWideCode?, digit, few, ↓reduceIte, others other admitted]
          · rw [if_neg few] at found
            cases found
      | none =>
          simp only [afterWideCode?, digit] at found
          by_cases empty : count = 0
          · rw [if_pos empty] at found
            cases found
          · rw [if_neg empty] at found
            by_cases underscore : char = '_'
            · rw [if_pos underscore] at found
              obtain ⟨text, same, others⟩ := inductionHypothesis _ _ found
              refine ⟨char :: text, by rw [same, List.cons_append], ?_⟩
              intro other admitted
              simp only [List.cons_append, afterWideCode?, digit, empty, if_pos underscore, ↓reduceIte,
                others other admitted]
            · rw [if_neg underscore] at found
              by_cases closes : char = '\x7d' ∧ dialect.admitsValue value
              · rw [if_pos closes] at found
                cases found
                refine ⟨[char], rfl, ?_⟩
                intro other _
                simp only [List.singleton_append, afterWideCode?, digit, empty, if_neg underscore,
                  if_pos closes, ↓reduceIte]
              · rw [if_neg closes] at found
                cases found

theorem afterEscape?_local (dialect : Dialect) : IsLocal (afterEscape? dialect) := by
  intro full rest found
  fun_cases afterEscape? dialect full with
  | case1 first second following admitted =>
      rw [afterEscape?, if_pos admitted] at found
      cases found
      refine ⟨['x', first, second], rfl, ?_⟩
      intro other _
      simp only [List.cons_append, List.nil_append, afterEscape?, admitted, ↓reduceIte]
  | case2 first second following refused =>
      rw [afterEscape?, if_neg refused] at found
      cases found
  | case3 following admitted =>
      rw [afterEscape?, if_pos admitted] at found
      obtain ⟨text, same, others⟩ := afterWideCode?_local dialect 0 0 _ _ found
      refine ⟨'u' :: '\x7b' :: text, by rw [same]; rfl, ?_⟩
      intro other admittedRest
      simp only [List.cons_append, afterEscape?, admitted, ↓reduceIte, others other admittedRest]
  | case4 following refused =>
      rw [afterEscape?, if_neg refused] at found
      cases found
  | case5 char following noCode noWideCode known =>
      rw [afterEscape?.eq_3 _ _ _ noCode noWideCode, if_pos known] at found
      cases found
      refine ⟨[char], rfl, ?_⟩
      intro other _
      have plain : char ≠ 'x' ∧ char ≠ 'u' := by
        constructor <;> (intro same; rw [same] at known; simp at known)
      rw [List.singleton_append, afterEscape?.eq_3 _ _ _ (fun _ _ _ same => absurd same plain.1)
        (fun _ same => absurd same plain.2), if_pos known]
  | case6 char following noCode noWideCode unknown =>
      rw [afterEscape?.eq_3 _ _ _ noCode noWideCode, if_neg unknown] at found
      cases found
  | case7 => cases found

/-- The blanks at a line end are left where the same character follows them. -/
theorem afterLineEnd?_settles : Settles (fun rest other => other.head? = rest.head?) afterLineEnd? := by
  intro full rest found
  fun_induction afterLineEnd? full with
  | case1 => cases found
  | case2 tail inductionHypothesis =>
      obtain ⟨text, same, others⟩ := inductionHypothesis found
      refine ⟨'\r' :: '\n' :: text, by rw [same]; rfl, ?_⟩
      intro other head
      rw [List.cons_append, List.cons_append, afterLineEnd?, others other head]
  | case3 => cases found
  | case4 char tail noPair noReturn blank inductionHypothesis =>
      obtain ⟨text, same, others⟩ := inductionHypothesis found
      refine ⟨char :: text, by rw [same]; rfl, ?_⟩
      intro other head
      have notReturn : char ≠ '\r' := by
        rintro rfl
        simp at blank
      rw [List.cons_append, afterLineEnd?.eq_4 _ _ (fun _ same _ => notReturn same) notReturn,
        if_pos blank, others other head]
  | case5 char tail noPair noReturn notBlank =>
      cases found
      refine ⟨[], rfl, ?_⟩
      intro other head
      cases other with
      | nil => cases head
      | cons next following =>
          cases head
          rw [List.nil_append, afterLineEnd?.eq_4 _ _ (fun _ same _ => noReturn same) noReturn,
            if_neg notBlank]

theorem afterStringEscape?_settles (dialect : Dialect) :
    Settles (fun rest other => other.head? = rest.head?) (afterStringEscape? dialect) := by
  intro full rest found
  unfold afterStringEscape? at found
  by_cases lineEnd : full.head?.any isLineEnd
  · rw [if_pos lineEnd] at found
    obtain ⟨text, same, others⟩ := afterLineEnd?_settles _ _ found
    refine ⟨text, same, ?_⟩
    intro other head
    have sameHead : (text ++ other).head? = full.head? := by
      rw [same, List.head?_append, List.head?_append, head]
    rw [afterStringEscape?, sameHead, if_pos lineEnd, others other head]
  · rw [if_neg lineEnd] at found
    obtain ⟨text, same, others⟩ := afterEscape?_local dialect _ _ found
    refine ⟨text, same, ?_⟩
    intro other head
    have sameHead : (text ++ other).head? = full.head? := by
      rw [same, List.head?_append, List.head?_append, head]
    rw [afterStringEscape?, sameHead, if_neg lineEnd, others other trivial]

theorem afterString?_local (dialect : Dialect) : IsLocal (afterString? dialect) := by
  intro full rest found
  fun_induction afterString? dialect full with
  | case1 => cases found
  | case2 following =>
      cases found
      exact ⟨['"'], rfl, fun other _ => by rw [List.singleton_append, afterString?]⟩
  | case3 following inductionHypothesis =>
      obtain ⟨text, same, others⟩ := inductionHypothesis found
      refine ⟨'\r' :: '\n' :: text, by rw [same]; rfl, ?_⟩
      intro other admitted
      rw [List.cons_append, List.cons_append, afterString?, others other admitted]
  | case4 => cases found
  | case5 escaped following read shorter inductionHypothesis =>
      obtain ⟨text, same, others⟩ := inductionHypothesis found
      obtain ⟨escape, split, settled⟩ := afterStringEscape?_settles dialect _ _ read
      have nonempty : text ≠ [] := by
        rintro rfl
        have closed := others [] trivial
        rw [List.append_nil, afterString?] at closed
        cases closed
      refine ⟨'\\' :: (escape ++ text), by rw [split, same]; simp, ?_⟩
      intro other admitted
      have escapeRead : afterStringEscape? dialect (escape ++ (text ++ other)) = some (text ++ other) := by
        apply settled
        rw [same, List.head?_append_of_ne_nil text nonempty, List.head?_append_of_ne_nil text nonempty]
      have fewer : (text ++ other).length ≤ (escape ++ (text ++ other)).length := by
        simp only [List.length_append]
        omega
      rw [List.cons_append, List.append_assoc, afterString?, escapeRead]
      simp only [fewer, ↓reduceDIte, others other admitted]
  | case6 => cases found
  | case7 => cases found
  | case8 char following notQuote notPair notReturn notEscape admitted inductionHypothesis =>
      obtain ⟨text, same, others⟩ := inductionHypothesis found
      refine ⟨char :: text, by rw [same]; rfl, ?_⟩
      intro other admittedRest
      rw [List.cons_append, afterString?.eq_6 _ _ _ notQuote (fun _ same _ => notReturn same) notReturn
        notEscape, if_pos admitted, others other admittedRest]
  | case9 => cases found

theorem afterHashes?_local (count : Nat) : IsLocal (afterHashes? count) := by
  intro full rest found
  fun_induction afterHashes? count full with
  | case1 following =>
      cases found
      exact ⟨[], rfl, fun other _ => rfl⟩
  | case2 count following inductionHypothesis =>
      obtain ⟨text, same, others⟩ := inductionHypothesis found
      exact ⟨'#' :: text, by rw [same]; rfl, others⟩
  | case3 => cases found

/-- Behind a quote the signs are counted up to the first other character. -/
theorem afterHashes?_append (count : Nat) (text other : List Char) (quote : '"' ∈ text) :
    afterHashes? count (text ++ other) = (afterHashes? count text).map (· ++ other) := by
  fun_induction afterHashes? count text with
  | case1 => rfl
  | case2 count following inductionHypothesis =>
      rw [List.cons_append, afterHashes?, inductionHypothesis (by simpa using quote)]
  | case3 count text notHash =>
      cases text with
      | nil => cases quote
      | cons char following =>
          rw [List.cons_append, afterHashes?.eq_3 _ _ fun _ same =>
            notHash following (by rw [(List.cons.inj same).1])]
          rfl

theorem afterRawBody?_quote (dialect : Dialect) (hashes : Nat) (full rest : List Char)
    (found : afterRawBody? dialect hashes full = some rest) : '"' ∈ full := by
  fun_induction afterRawBody? dialect hashes full with
  | case1 => cases found
  | case2 following inductionHypothesis => simp [inductionHypothesis found]
  | case3 => cases found
  | case4 => simp
  | case5 => simp
  | case6 char following _ _ _ _ inductionHypothesis => simp [inductionHypothesis found]
  | case7 => cases found

theorem afterRawBody?_local (dialect : Dialect) (hashes : Nat) :
    IsLocal (afterRawBody? dialect hashes) := by
  intro full rest found
  fun_induction afterRawBody? dialect hashes full with
  | case1 => cases found
  | case2 following inductionHypothesis =>
      obtain ⟨text, same, others⟩ := inductionHypothesis found
      refine ⟨'\r' :: '\n' :: text, by rw [same]; rfl, ?_⟩
      intro other admitted
      rw [List.cons_append, List.cons_append, afterRawBody?, others other admitted]
  | case3 => cases found
  | case4 opened following closed =>
      cases found
      obtain ⟨text, same, others⟩ := afterHashes?_local hashes _ _ closed
      refine ⟨'"' :: text, by rw [same]; rfl, ?_⟩
      intro other admitted
      rw [List.cons_append, afterRawBody?, others other admitted]
  | case5 opened notClosed inductionHypothesis =>
      obtain ⟨text, same, others⟩ := inductionHypothesis found
      have quote : '"' ∈ text := by
        apply afterRawBody?_quote dialect hashes text []
        rw [← others [] trivial, List.append_nil]
      refine ⟨'"' :: text, by rw [same]; rfl, ?_⟩
      intro other admitted
      rw [same, afterHashes?_append hashes text rest quote, Option.map_eq_none_iff] at notClosed
      rw [List.cons_append, afterRawBody?, afterHashes?_append hashes text other quote, notClosed]
      exact others other admitted
  | case6 char following notPair notReturn notQuote admitted inductionHypothesis =>
      obtain ⟨text, same, others⟩ := inductionHypothesis found
      refine ⟨char :: text, by rw [same]; rfl, ?_⟩
      intro other admittedRest
      rw [List.cons_append, afterRawBody?.eq_5 _ _ _ _ (fun _ same _ => notReturn same) notReturn
        notQuote, if_pos admitted, others other admittedRest]
  | case7 => cases found

theorem afterRaw?_local (dialect : Dialect) : IsLocal (afterRaw? dialect) := by
  intro full rest found
  unfold afterRaw? at found
  split at found
  · next body opened =>
      by_cases few : (full.takeWhile (· == '#')).length ≤ 255
      · simp only [few, ↓reduceIte] at found
        obtain ⟨text, same, others⟩ := afterRawBody?_local _ _ _ _ found
        refine ⟨full.takeWhile (· == '#') ++ '"' :: text, ?_, ?_⟩
        · rw [List.append_assoc, List.cons_append, ← same, ← opened, List.takeWhile_append_dropWhile]
        · intro other admitted
          have hashes : ∀ sign ∈ full.takeWhile (· == '#'), (sign == '#') = true :=
            fun sign member => List.mem_takeWhile_imp (p := (· == '#')) member
          unfold afterRaw?
          rw [List.append_assoc, List.cons_append, List.takeWhile_append_of_pos hashes,
            List.dropWhile_append_of_pos hashes]
          simp only [List.takeWhile_cons, List.dropWhile_cons, show ('"' == '#') = false from rfl,
            Bool.false_eq_true, ↓reduceIte, List.append_nil, few, others other admitted]
      · simp only [few, ↓reduceIte] at found
        cases found
  · cases found

theorem afterChar?_escape {dialect : Dialect} {escaped rest : List Char}
    (read : afterEscape? dialect escaped = some ('\x27' :: rest)) :
    afterChar? dialect ('\\' :: escaped) = some rest := by
  simp only [afterChar?, read]

theorem afterChar?_plain {dialect : Dialect} {char : Char} {rest : List Char} (plain : char ≠ '\\')
    (admitted : dialect.admits char) : afterChar? dialect (char :: '\x27' :: rest) = some rest := by
  grind [afterChar?]

theorem afterChar?_cases {dialect : Dialect} {full rest : List Char}
    (found : afterChar? dialect full = some rest) :
    (∃ escaped, full = '\\' :: escaped ∧ afterEscape? dialect escaped = some ('\x27' :: rest)) ∨
      ∃ char, full = char :: '\x27' :: rest ∧ char ≠ '\\' ∧ dialect.admits char := by
  cases full with
  | nil => cases found
  | cons char following =>
      by_cases plain : char = '\\'
      · subst plain
        rw [afterChar?] at found
        split at found
        · next read =>
            cases found
            exact .inl ⟨following, rfl, read⟩
        · cases found
      · rw [afterChar?.eq_2 _ _ _ plain] at found
        by_cases admitted : dialect.admits char
        · rw [if_pos admitted] at found
          split at found
          · next same =>
              cases found
              cases same
              exact .inr ⟨char, rfl, plain, admitted⟩
          · cases found
        · rw [if_neg admitted] at found
          cases found

theorem afterChar?_local (dialect : Dialect) : IsLocal (afterChar? dialect) := by
  intro full rest found
  obtain ⟨escaped, rfl, read⟩ | ⟨char, rfl, plain, admitted⟩ := afterChar?_cases found
  · obtain ⟨text, same, others⟩ := afterEscape?_local dialect _ _ read
    refine ⟨'\\' :: (text ++ ['\x27']), by rw [same]; simp, ?_⟩
    intro other _
    rw [List.cons_append, List.append_assoc]
    exact afterChar?_escape (others _ trivial)
  · exact ⟨[char, '\x27'], rfl, fun other _ => afterChar?_plain plain admitted⟩

/-- The characters that literals in quotes start with. -/
def startsQuoted (char : Char) : Bool := ['"', '\x27', 'r', 'b', 'c'].contains char

theorem afterQuoted?_none {full : List Char} (plain : full.head?.any startsQuoted = false) :
    afterQuoted? full = none := by
  fun_cases afterQuoted? full with
  | case9 => rfl
  | _ => cases plain

theorem afterQuoted?_local : IsLocal afterQuoted? := by
  intro full rest found
  fun_cases afterQuoted? full with
  | case1 following =>
      obtain ⟨text, same, others⟩ := afterString?_local _ _ _ found
      exact ⟨'"' :: text, by rw [same]; rfl, others⟩
  | case2 following =>
      obtain ⟨text, same, others⟩ := afterRaw?_local _ _ _ found
      exact ⟨'r' :: text, by rw [same]; rfl, others⟩
  | case3 following =>
      obtain ⟨text, same, others⟩ := afterString?_local _ _ _ found
      exact ⟨'b' :: '"' :: text, by rw [same]; rfl, others⟩
  | case4 following =>
      obtain ⟨text, same, others⟩ := afterRaw?_local _ _ _ found
      exact ⟨'b' :: 'r' :: text, by rw [same]; rfl, others⟩
  | case5 following =>
      obtain ⟨text, same, others⟩ := afterChar?_local _ _ _ found
      exact ⟨'b' :: '\x27' :: text, by rw [same]; rfl, others⟩
  | case6 following =>
      obtain ⟨text, same, others⟩ := afterString?_local _ _ _ found
      exact ⟨'c' :: '"' :: text, by rw [same]; rfl, others⟩
  | case7 following =>
      obtain ⟨text, same, others⟩ := afterRaw?_local _ _ _ found
      exact ⟨'c' :: 'r' :: text, by rw [same]; rfl, others⟩
  | case8 following =>
      obtain ⟨text, same, others⟩ := afterChar?_local _ _ _ found
      exact ⟨'\x27' :: text, by rw [same]; rfl, others⟩
  | case9 text noString noRaw noBytes noRawBytes noByte noZeroEnded noRawZeroEnded noChar =>
      rw [afterQuoted?.eq_9 _ noString noRaw noBytes noRawBytes noByte noZeroEnded noRawZeroEnded noChar] at found
      cases found

end ObjectMapping.Source.Literal
