/-
This file proves what becomes of a name that is cut into words: the words hold its letters and digits, each in
lower case, and an underscore stands between them.
-/

import ObjectMapping.Name
import ObjectMapping.Proofs.Text.LetterCase

namespace ObjectMapping

open Text

namespace Text

/-- The segments hold what is left of a text without its separators. -/
theorem splitOnChars_flatten (isSeparator : Char → Bool) (text : List Char) :
    (splitOnChars isSeparator text).flatten = text.filter fun char => !isSeparator char := by
  fun_induction splitOnChars isSeparator text with
  | case1 => rfl
  | case2 char rest separates inductionHypothesis =>
      rw [List.flatten_cons, List.nil_append, inductionHypothesis, List.filter_cons_of_neg (by simp [separates])]
  | case3 char rest stays none inductionHypothesis =>
      rw [none] at inductionHypothesis
      rw [List.filter_cons_of_pos (by simp [stays]), ← inductionHypothesis]
      rfl
  | case4 char rest stays segment segments cut inductionHypothesis =>
      rw [cut] at inductionHypothesis
      rw [List.filter_cons_of_pos (by simp [stays]), ← inductionHypothesis]
      rfl

/-- A text without separators is one segment. -/
theorem splitOnChars_whole {isSeparator : Char → Bool} {text : List Char}
    (none : ∀ char ∈ text, isSeparator char = false) : splitOnChars isSeparator text = [text] := by
  induction text with
  | nil => rfl
  | cons char rest inductionHypothesis =>
      obtain ⟨stays, others⟩ := List.forall_mem_cons.mp none
      rw [splitOnChars, stays, inductionHypothesis others]
      rfl

theorem sigmas_areCased : areCased capitalSigma.toNat capitalSigma.toNat = true ∧
    areCased finalSigma.toNat finalSigma.toNat = true := by
  decide +kernel

/-- A word of an identifier in lower case: it stays one, and can start an identifier if it could before. -/
structure LowersWord (word lowered : List Char) : Prop where
  continues : ∀ char ∈ lowered, isIdentifierContinue char
  full : lowered ≠ []
  start : lowered.head?.any isIdentifierStart = word.head?.any isIdentifierStart

theorem Lowers.word {char : Char} {lowered : List Char} (lowers : Lowers char lowered)
    (continues : isIdentifierContinue char) (others : List Char) : LowersWord (char :: others) lowered := by
  cases lowers with
  | kept => exact ⟨List.forall_mem_singleton.mpr continues, List.cons_ne_nil _ _, rfl⟩
  | lowered first rest start firstStart continues =>
      exact ⟨continues, List.cons_ne_nil _ _, firstStart.trans start.symm⟩

theorem lowerWord_lowers {word : List Char} (full : word ≠ []) (continues : ∀ char ∈ word, isIdentifierContinue char) :
    LowersWord word (lowerWord word) := by
  fun_induction lowerWord word with
  | case1 => contradiction
  | case2 char isSigma =>
      obtain rfl := beq_iff_eq.mp isSigma
      obtain ⟨capitalStart, _⟩ := cased_isIdentifier sigmas_areCased.1
      obtain ⟨finalStart, finalContinues⟩ := cased_isIdentifier sigmas_areCased.2
      exact ⟨List.forall_mem_singleton.mpr finalContinues, List.cons_ne_nil _ _, finalStart.trans capitalStart.symm⟩
  | case3 char =>
      have charContinues := List.forall_mem_singleton.mp continues
      exact (lowerChar_lowers charContinues).word charContinues []
  | case4 char rest more inductionHypothesis =>
      obtain ⟨charContinues, restContinue⟩ := List.forall_mem_cons.mp continues
      have first := (lowerChar_lowers charContinues).word charContinues rest
      have others := inductionHypothesis (fun none => more none) restContinue
      refine ⟨fun one present => ?_, List.append_ne_nil_of_left_ne_nil first.full _, ?_⟩
      · exact (List.mem_append.mp present).elim (first.continues one) (others.continues one)
      · rw [List.head?_append_of_ne_nil _ first.full, first.start]

/-- Words in lower case with underscores between them. -/
theorem intercalate_lowers {words : List (List Char)} (lowers : ∀ word ∈ words, LowersWord word (lowerWord word)) :
    (∀ char ∈ ['_'].intercalate (words.map lowerWord), isIdentifierContinue char) ∧
      (['_'].intercalate (words.map lowerWord)).head?.any isIdentifierStart =
        words.flatten.head?.any isIdentifierStart := by
  induction words with
  | nil => exact ⟨nofun, rfl⟩
  | cons word rest inductionHypothesis =>
      obtain ⟨first, others⟩ := List.forall_mem_cons.mp lowers
      obtain ⟨restContinue, _⟩ := inductionHypothesis others
      have wordFull : word ≠ [] := by
        rintro rfl
        exact first.full rfl
      rw [List.flatten_cons, List.head?_append_of_ne_nil _ wordFull, ← first.start, List.map_cons]
      cases rest with
      | nil =>
          rw [List.map_nil, List.intercalate_singleton]
          exact ⟨first.continues, rfl⟩
      | cons next more =>
          rw [List.map_cons] at restContinue ⊢
          rw [List.intercalate_cons_cons, List.append_assoc, List.head?_append_of_ne_nil _ first.full]
          refine ⟨fun char present => ?_, rfl⟩
          obtain inFirst | inRest := List.mem_append.mp present
          · exact first.continues char inFirst
          · obtain isUnderscore | inRest := List.mem_cons.mp inRest
            · rw [isUnderscore]
              rfl
            · exact restContinue char inRest

end Text

namespace Name

/-- The words of a stretch hold all of it. -/
theorem wordsOfStretch_flatten (run : LetterRun) (word text : List Char) :
    (wordsOfStretch run word text).flatten = word ++ text := by
  fun_induction wordsOfStretch run word text with
  | case1 run word isEmpty => simpa using isEmpty
  | case2 run word full => simp
  | case3 run word char => simp
  | case4 run word char next rest ends inductionHypothesis =>
      rw [List.flatten_cons, inductionHypothesis]
      simp
  | case5 run word char next rest _ ends inductionHypothesis =>
      rw [List.flatten_cons, inductionHypothesis]
      simp
  | case6 run word char next rest _ _ inductionHypothesis =>
      rw [inductionHypothesis]
      simp

/-- No word is empty: a run of capitals has begun within the word that it ends. -/
theorem wordsOfStretch_full {run : LetterRun} {word text : List Char} (begun : run = .capital → word ≠ []) :
    [] ∉ wordsOfStretch run word text := by
  fun_induction wordsOfStretch run word text with
  | case1 => simp
  | case2 run word full => simpa using full
  | case3 => simp
  | case4 run word char next rest ends inductionHypothesis =>
      simpa using inductionHypothesis nofun
  | case5 run word char next rest _ ends inductionHypothesis =>
      simpa using ⟨begun ends.1, inductionHypothesis nofun⟩
  | case6 run word char next rest _ _ inductionHypothesis =>
      exact inductionHypothesis fun _ => by simp

/-- The words of a text hold its letters and digits. -/
theorem wordsOfText_flatten (text : List Char) : (wordsOfText text).flatten = text.filter isAlphanumeric := by
  rw [wordsOfText, List.flatMap, List.flatten_flatten, List.map_map]
  have whole : List.flatten ∘ wordsOfStretch .boundary [] = id := by
    funext stretch
    exact wordsOfStretch_flatten .boundary [] stretch
  rw [whole, List.map_id, splitOnChars_flatten]
  simp

theorem wordsOfText_full (text : List Char) : [] ∉ wordsOfText text := by
  intro empty
  obtain ⟨stretch, _, inStretch⟩ := List.mem_flatMap.mp empty
  have begun : LetterRun.boundary = .capital → ([] : List Char) ≠ [] := nofun
  exact wordsOfStretch_full begun inStretch

theorem snakeCase_toList (text : String) : (ofText text).snakeCase.toList =
    ['_'].intercalate ((wordsOfText text.toList).map lowerWord) := by
  have ofList : String.toList ∘ (fun word => String.ofList (lowerWord word)) = lowerWord := by
    funext word
    exact String.toList_ofList
  rw [snakeCase, ofText, String.toList_intercalate, List.map_map, ofList]
  rfl

/-- The first letter or digit of the name can start an identifier. -/
def LeadsWithLetter (name : String) : Prop := (name.toList.find? isAlphanumeric).any isIdentifierStart = true

instance (name : String) : Decidable (LeadsWithLetter name) := inferInstanceAs (Decidable (_ = true))

/-- In snake case all of a name can stand in an identifier, and it can start one if its first letter or digit can. -/
theorem snakeCase_lowers {text : String}
    (continues : ∀ char ∈ text.toList, isAlphanumeric char → isIdentifierContinue char) :
    (∀ char ∈ (ofText text).snakeCase.toList, isIdentifierContinue char) ∧
      ((ofText text).snakeCase.toList.head?.any isIdentifierStart ↔ LeadsWithLetter text) := by
  have lowers : ∀ word ∈ wordsOfText text.toList, LowersWord word (lowerWord word) := by
    intro word isWord
    refine lowerWord_lowers (fun same => wordsOfText_full _ (same ▸ isWord)) fun char inWord => ?_
    have inText : char ∈ text.toList.filter isAlphanumeric := by
      rw [← wordsOfText_flatten]
      exact List.mem_flatten.mpr ⟨word, isWord, inWord⟩
    obtain ⟨present, isLetter⟩ := List.mem_filter.mp inText
    exact continues char present isLetter
  obtain ⟨allContinue, start⟩ := intercalate_lowers lowers
  rw [snakeCase_toList, start, wordsOfText_flatten, List.head?_filter]
  exact ⟨allContinue, Iff.rfl⟩

end Name

end ObjectMapping
