/-
This file proves that words are replaced in the parts of a text on their own where no word can stretch
from one part to the next, and that words of word characters are replaced run by run: the text is cut
into the longest runs of word characters and what stands between them.
-/

import Mathlib.Data.List.Basic
import Mathlib.Data.List.Find
import Mathlib.Data.List.SplitBy
import ObjectMapping.Text.Words

namespace ObjectMapping.Text

/-- Two neighbours of a place are alike if both belong to words or neither does. -/
def Alike (left right : Option Char) : Prop := left.any isWordChar = right.any isWordChar

namespace WordRename

/-- Whether a word stands at a place depends on what precedes only by its being part of a word. -/
theorem standsAt_congr {rename : WordRename} (nonempty : rename.word ≠ []) {before other : Option Char}
    (alike : Alike before other) (text : List Char) :
    rename.standsAt before text = rename.standsAt other text := by
  obtain ⟨last, isLast⟩ : ∃ last, rename.word.getLast? = some last :=
    Option.isSome_iff_exists.mp (List.getLast?_isSome.mpr nonempty)
  rw [standsAt, standsAt, isWordBoundary, isWordBoundary, isWordBoundary, isWordBoundary, alike, isLast,
    Option.some_or, Option.some_or]

/-- No word stretches over a character that it does not hold. -/
theorem isPrefixOf_append {word left right : List Char} (stop : ∀ char ∈ right.head?, char ∉ word) :
    word.isPrefixOf (left ++ right) = word.isPrefixOf left := by
  rw [Bool.eq_iff_iff, List.isPrefixOf_iff_prefix, List.isPrefixOf_iff_prefix]
  refine ⟨fun starts => ?_, fun starts => starts.trans (List.prefix_append left right)⟩
  obtain within | ⟨extra, rfl⟩ := List.prefix_or_prefix_of_prefix starts (List.prefix_append left right)
  · exact within
  · cases extra with
    | nil => simp only [List.append_nil, List.prefix_rfl]
    | cons char others =>
        obtain ⟨following, same⟩ := (List.prefix_append_right_inj left).mp starts
        have isHead : char ∈ right.head? := by rw [← same]; rfl
        exact absurd (List.mem_append_right _ List.mem_cons_self) (stop char isHead)

theorem standsAt_append {rename : WordRename} {left right : List Char} (nonempty : left ≠ [])
    (stop : ∀ char ∈ right.head?, isWordChar char = false ∧ char ∉ rename.word) (before : Option Char) :
    rename.standsAt before (left ++ right) = rename.standsAt before left := by
  have noWordChar : right.head?.any isWordChar = false := by
    cases isHead : right.head? with
    | none => rfl
    | some char => exact (stop char isHead).1
  rw [standsAt, standsAt, isPrefixOf_append fun char isHead => (stop char isHead).2,
    List.head?_append_of_ne_nil left nonempty]
  by_cases starts : rename.word.isPrefixOf left
  · obtain ⟨tail, rfl⟩ := List.isPrefixOf_iff_prefix.mp starts
    have same : isWordBoundary (rename.word.getLast?.or before) (tail ++ right).head? =
        isWordBoundary (rename.word.getLast?.or before) tail.head? := by
      cases tail with
      | nil => rw [List.nil_append, isWordBoundary, isWordBoundary, noWordChar]; rfl
      | cons => rfl
    rw [List.append_assoc, List.drop_left, List.drop_left, same]
  · simp only [starts, Bool.false_and]

end WordRename

section

variable {renames : List WordRename} (nonempty : ∀ rename ∈ renames, rename.word ≠ [])
include nonempty

/-- A word that stands at the head of a text is replaced. -/
theorem renameWordsAfter_stands {before : Option Char} {text : List Char} {rename : WordRename}
    (found : renames.find? (·.standsAt before text) = some rename) (afterWord : Bool) :
    renameWordsAfter renames before afterWord text = rename.replacement ++
      renameWordsAfter renames rename.word.getLast? true (text.drop rename.word.length) := by
  have full := nonempty rename (List.mem_of_find?_eq_some found)
  have stands := List.find?_some found
  simp only [WordRename.standsAt, Bool.and_eq_true] at stands
  obtain ⟨tail, rfl⟩ := List.isPrefixOf_iff_prefix.mp stands.1.1
  have positive := List.length_pos_of_ne_nil full
  have notEmpty : rename.word.isEmpty = false := by simpa using full
  have shorter : ((rename.word ++ tail).drop rename.word.length).length < (rename.word ++ tail).length := by
    rw [List.drop_left, List.length_append]
    omega
  rw [renameWordsAfter.eq_def, found, Option.filter_some, notEmpty, Bool.and_false, Bool.not_false, if_pos rfl]
  simp only [shorter, ↓reduceIte]

theorem renameWordsAfter_nil (before : Option Char) (afterWord : Bool) :
    renameWordsAfter renames before afterWord [] = [] := by
  have none : renames.find? (·.standsAt before []) = none := by
    refine List.find?_eq_none.mpr fun rename member => ?_
    simp [WordRename.standsAt, nonempty rename member]
  rw [renameWordsAfter.eq_def, none]
  rfl

omit nonempty in
theorem renameWordsAfter_cons {before : Option Char} {char : Char} {rest : List Char}
    (none : renames.find? (·.standsAt before (char :: rest)) = none) (afterWord : Bool) :
    renameWordsAfter renames before afterWord (char :: rest) =
      char :: renameWordsAfter renames (some char) false rest := by
  rw [renameWordsAfter.eq_def, none]
  rfl

/-- What is replaced depends on what precedes the text only by its being part of a word. -/
theorem renameWordsAfter_congr {before other : Option Char} (alike : Alike before other)
    (afterWord otherWord : Bool) (text : List Char) :
    renameWordsAfter renames before afterWord text = renameWordsAfter renames other otherWord text := by
  have same : renames.find? (·.standsAt before text) = renames.find? (·.standsAt other text) :=
    List.find?_congr fun rename member => rename.standsAt_congr (nonempty rename member) alike text
  cases found : renames.find? (·.standsAt before text) with
  | some rename =>
      rw [renameWordsAfter_stands nonempty found, renameWordsAfter_stands nonempty (same.symm.trans found)]
  | none =>
      cases text with
      | nil => rw [renameWordsAfter_nil nonempty, renameWordsAfter_nil nonempty]
      | cons char rest =>
          rw [renameWordsAfter_cons found, renameWordsAfter_cons (same.symm.trans found)]

/-- A character that no word starts with stays, whatever precedes it. -/
theorem renameWordsAfter_pass {char : Char} (noStart : ∀ rename ∈ renames, rename.word.head? ≠ some char)
    (before : Option Char) (afterWord : Bool) (rest : List Char) :
    renameWordsAfter renames before afterWord (char :: rest) =
      char :: renameWordsAfter renames (some char) false rest := by
  refine renameWordsAfter_cons (List.find?_eq_none.mpr fun rename member stands => ?_) afterWord
  simp only [WordRename.standsAt, Bool.and_eq_true] at stands
  obtain ⟨tail, same⟩ := List.isPrefixOf_iff_prefix.mp stands.1.1
  refine noStart rename member ?_
  rw [← List.head?_append_of_ne_nil rename.word (nonempty rename member), same]
  rfl

/-- The words in front of a character that ends them all are replaced on their own. -/
theorem renameWordsAfter_append {left right : List Char}
    (stop : ∀ char ∈ right.head?, isWordChar char = false ∧ ∀ rename ∈ renames, char ∉ rename.word)
    (before : Option Char) (afterWord : Bool) :
    renameWordsAfter renames before afterWord (left ++ right) =
      renameWordsAfter renames before afterWord left ++ renameWordsAfter renames none false right := by
  induction length : left.length using Nat.strongRecOn generalizing left before afterWord with
  | _ size inductionHypothesis =>
      rcases left with _ | ⟨char, rest⟩
      · rw [renameWordsAfter_nil nonempty, List.nil_append, List.nil_append]
        rcases right with _ | ⟨char, rest⟩
        · rw [renameWordsAfter_nil nonempty, renameWordsAfter_nil nonempty]
        · have noStart (rename) (member : rename ∈ renames) : rename.word.head? ≠ some char := fun isHead =>
            (stop char rfl).2 rename member (List.mem_of_mem_head? isHead)
          rw [renameWordsAfter_pass nonempty noStart, renameWordsAfter_pass nonempty noStart]
      · have same : renames.find? (·.standsAt before (char :: rest ++ right)) =
            renames.find? (·.standsAt before (char :: rest)) :=
          List.find?_congr fun rename member => rename.standsAt_append (List.cons_ne_nil _ _)
            (fun char isHead => ⟨(stop char isHead).1, (stop char isHead).2 rename member⟩) before
        cases found : renames.find? (·.standsAt before (char :: rest)) with
        | some rename =>
            have positive :=
              List.length_pos_of_ne_nil (nonempty rename (List.mem_of_find?_eq_some found))
            have stands := List.find?_some found
            simp only [WordRename.standsAt, Bool.and_eq_true] at stands
            have within := (List.isPrefixOf_iff_prefix.mp stands.1.1).length_le
            rw [renameWordsAfter_stands nonempty found,
              renameWordsAfter_stands nonempty (same.trans found),
              List.drop_append_of_le_length within, List.append_assoc]
            rw [inductionHypothesis _ ?_ _ _ rfl]
            rw [List.length_drop]
            omega
        | none =>
            have none : renames.find? (·.standsAt before (char :: (rest ++ right))) = none :=
              same.trans found
            rw [renameWordsAfter_cons found, List.cons_append, renameWordsAfter_cons none,
              inductionHypothesis rest.length (by rw [← length]; exact Nat.lt_succ_self _) _ _ rfl,
              List.cons_append]

/-- Inside a word no other word starts. -/
theorem renameWordsAfter_inside {before : Char} {text : List Char} (isWord : isWordChar before)
    (wordChars : ∀ char ∈ text, isWordChar char) (afterWord : Bool) :
    renameWordsAfter renames (some before) afterWord text = text := by
  induction text generalizing before afterWord with
  | nil => exact renameWordsAfter_nil nonempty (some before) afterWord
  | cons char rest inductionHypothesis =>
      obtain ⟨headWord, restWords⟩ := List.forall_mem_cons.mp wordChars
      have none : renames.find? (·.standsAt (some before) (char :: rest)) = none := by
        refine List.find?_eq_none.mpr fun rename _ => ?_
        simp [WordRename.standsAt, isWordBoundary, isWord, headWord]
      rw [renameWordsAfter_cons none, inductionHypothesis headWord restWords]

omit nonempty in
theorem standsAt_whole {rename : WordRename} (full : rename.word ≠ []) {text : List Char}
    (wordChars : ∀ char ∈ text, isWordChar char) :
    rename.standsAt none text = (rename.word == text) := by
  rw [Bool.eq_iff_iff, beq_iff_eq]
  constructor
  · intro stands
    simp only [WordRename.standsAt, Bool.and_eq_true] at stands
    obtain ⟨⟨starts, _⟩, ends⟩ := stands
    obtain ⟨tail, rfl⟩ := List.isPrefixOf_iff_prefix.mp starts
    obtain ⟨last, isLast⟩ : ∃ last, rename.word.getLast? = some last :=
      Option.isSome_iff_exists.mp (List.getLast?_isSome.mpr full)
    have lastWord := wordChars last (List.mem_append_left _ (List.mem_of_getLast? isLast))
    cases tail with
    | nil => rw [List.append_nil]
    | cons char others =>
        have headWord := wordChars char (List.mem_append_right _ List.mem_cons_self)
        simp [isWordBoundary, isLast, lastWord, headWord] at ends
  · rintro rfl
    obtain ⟨first, others, split⟩ := List.exists_cons_of_ne_nil full
    obtain ⟨last, isLast⟩ : ∃ last, rename.word.getLast? = some last :=
      Option.isSome_iff_exists.mp (List.getLast?_isSome.mpr full)
    have firstWord := wordChars first (by rw [split]; exact List.mem_cons_self)
    have lastWord := wordChars last (List.mem_of_getLast? isLast)
    have starts : rename.word.isPrefixOf rename.word :=
      List.isPrefixOf_iff_prefix.mpr List.prefix_rfl
    have head : rename.word.head? = some first := by rw [split]; rfl
    simp [WordRename.standsAt, starts, isWordBoundary, head, isLast, firstWord, lastWord]

/-- A text that is a single word is replaced as a whole or not at all. -/
theorem renameWordsAfter_whole {text : List Char} (wordChars : ∀ char ∈ text, isWordChar char) :
    renameWordsAfter renames none false text =
      (renames.find? (·.word == text)).elim text (·.replacement) := by
  have same : renames.find? (·.standsAt none text) = renames.find? (·.word == text) :=
    List.find?_congr fun rename member => standsAt_whole (nonempty rename member) wordChars
  cases found : renames.find? (·.word == text) with
  | some rename =>
      have isWhole : rename.word = text := eq_of_beq (List.find?_some found :)
      rw [renameWordsAfter_stands nonempty (same.trans found), isWhole, List.drop_length,
        renameWordsAfter_nil nonempty, List.append_nil]
      rfl
  | none =>
      cases text with
      | nil => exact renameWordsAfter_nil nonempty _ _
      | cons char rest =>
          obtain ⟨headWord, restWords⟩ := List.forall_mem_cons.mp wordChars
          rw [renameWordsAfter_cons (same.trans found), renameWordsAfter_inside nonempty headWord restWords]
          rfl

/-- The first character stays, or it is that of a replacement. -/
theorem renameWordsAfter_head (replaced : ∀ rename ∈ renames, rename.replacement ≠ [])
    (before : Option Char) (afterWord : Bool) (text : List Char) :
    (renameWordsAfter renames before afterWord text).head? = text.head? ∨
      ∃ rename ∈ renames, text.head? = rename.word.head? ∧
        (renameWordsAfter renames before afterWord text).head? = rename.replacement.head? := by
  cases found : renames.find? (·.standsAt before text) with
  | some rename =>
      have member := List.mem_of_find?_eq_some found
      have stands := List.find?_some found
      simp only [WordRename.standsAt, Bool.and_eq_true] at stands
      obtain ⟨tail, rfl⟩ := List.isPrefixOf_iff_prefix.mp stands.1.1
      refine .inr ⟨rename, member, List.head?_append_of_ne_nil _ (nonempty rename member), ?_⟩
      rw [renameWordsAfter_stands nonempty found, List.head?_append_of_ne_nil _ (replaced rename member)]
  | none =>
      refine .inl ?_
      cases text with
      | nil => rw [renameWordsAfter_nil nonempty]
      | cons char rest => rw [renameWordsAfter_cons found, List.head?_cons, List.head?_cons]

end

/-- The word stands somewhere in the text. -/
def WordRename.IsIn (rename : WordRename) (text : List Char) : Prop :=
  ∃ left right, text = left ++ right ∧ rename.standsAt left.getLast? right

theorem renameWordsAfter_absent {renames : List WordRename} {left right : List Char}
    (absent : ∀ rename ∈ renames, ¬rename.IsIn (left ++ right)) :
    renameWordsAfter renames left.getLast? false right = right := by
  have none : renames.find? (·.standsAt left.getLast? right) = none :=
    List.find?_eq_none.mpr fun rename member stands => absent rename member ⟨left, right, rfl, stands⟩
  induction right generalizing left with
  | nil =>
      rw [renameWordsAfter.eq_def, none]
      rfl
  | cons char rest inductionHypothesis =>
      have absentBehind : ∀ rename ∈ renames, ¬rename.IsIn (left ++ [char] ++ rest) := by
        rwa [List.append_assoc, List.singleton_append]
      have behind := inductionHypothesis absentBehind (List.find?_eq_none.mpr fun rename member stands =>
        absentBehind rename member ⟨left ++ [char], rest, rfl, stands⟩)
      rw [List.getLast?_concat] at behind
      rw [renameWordsAfter_cons none, behind]

/-- A text in which no word stands is left as it is. -/
theorem renameWordsAfter_unchanged {renames : List WordRename} {text : List Char}
    (absent : ∀ rename ∈ renames, ¬rename.IsIn text) : renameWordsAfter renames none false text = text := by
  rw [← List.nil_append text] at absent
  exact renameWordsAfter_absent absent

theorem renameWords_toList (renames : List WordRename) (text : String) :
    (renameWords renames text).toList = renameWordsAfter renames none false text.toList := by
  rw [renameWords]
  split
  · next isEmpty =>
      obtain rfl := List.isEmpty_iff.mp isEmpty
      exact (renameWordsAfter_unchanged fun _ member => absurd member List.not_mem_nil).symm
  · exact String.toList_ofList

/-- The text cut where words begin and end: the longest runs of word characters and what stands between. -/
def wordPieces (text : List Char) : List (List Char) :=
  text.splitBy fun left right => isWordChar left == isWordChar right

/-- A piece lies within a word or outside all words. -/
theorem wordPieces_uniform {text piece : List Char} (present : piece ∈ wordPieces text) :
    (∀ char ∈ piece, isWordChar char = true) ∨ ∀ char ∈ piece, isWordChar char = false := by
  have chained := List.isChain_of_mem_splitBy present
  simp only [beq_iff_eq] at chained
  obtain ⟨first, rest, rfl⟩ := List.exists_cons_of_ne_nil (List.ne_nil_of_mem_splitBy present)
  have trans : Trans (fun left right => isWordChar left = isWordChar right)
      (fun left right => isWordChar left = isWordChar right)
      (fun left right => isWordChar left = isWordChar right) := ⟨Eq.trans⟩
  have likeFirst : ∀ char ∈ rest, isWordChar first = isWordChar char := fun _ inRest => chained.rel_cons inRest
  cases isWord : isWordChar first with
  | true =>
      refine .inl (List.forall_mem_cons.mpr ⟨isWord, fun char inRest => ?_⟩)
      rw [← likeFirst char inRest, isWord]
  | false =>
      refine .inr (List.forall_mem_cons.mpr ⟨isWord, fun char inRest => ?_⟩)
      rw [← likeFirst char inRest, isWord]

/-- The words are runs of word characters. -/
def AreWords (renames : List WordRename) : Prop :=
  ∀ rename ∈ renames, rename.word ≠ [] ∧ ∀ char ∈ rename.word, isWordChar char = true

namespace AreWords

variable {renames : List WordRename} (areWords : AreWords renames)
include areWords

theorem nonempty : ∀ rename ∈ renames, rename.word ≠ [] := fun rename member => (areWords rename member).1

/-- What stands between words stays. -/
theorem rename_between {between : List Char} (outside : ∀ char ∈ between, isWordChar char = false)
    (rest : List Char) : renameWordsAfter renames none false (between ++ rest) =
      between ++ renameWordsAfter renames none false rest := by
  induction between with
  | nil => rfl
  | cons char others inductionHypothesis =>
      obtain ⟨noWordChar, othersOutside⟩ := List.forall_mem_cons.mp outside
      have noStart : ∀ rename ∈ renames, rename.word.head? ≠ some char := by
        intro rename member isHead
        rw [(areWords rename member).2 char (List.mem_of_mem_head? isHead)] at noWordChar
        cases noWordChar
      have alike : Alike (some char) none := noWordChar
      rw [List.cons_append, renameWordsAfter_pass areWords.nonempty noStart,
        renameWordsAfter_congr areWords.nonempty alike false false, inductionHypothesis othersOutside,
        List.cons_append]

/-- A run that ends where no word character follows is replaced as a whole or not at all. -/
theorem rename_run {run rest : List Char} (inside : ∀ char ∈ run, isWordChar char = true)
    (ended : ∀ char ∈ rest.head?, isWordChar char = false) :
    renameWordsAfter renames none false (run ++ rest) =
      (renames.find? (·.word == run)).elim run (·.replacement) ++ renameWordsAfter renames none false rest := by
  have stop : ∀ char ∈ rest.head?, isWordChar char = false ∧ ∀ rename ∈ renames, char ∉ rename.word := by
    intro char isHead
    refine ⟨ended char isHead, fun rename member inWord => ?_⟩
    have noWordChar := ended char isHead
    rw [(areWords rename member).2 char inWord] at noWordChar
    cases noWordChar
  rw [renameWordsAfter_append areWords.nonempty stop, renameWordsAfter_whole areWords.nonempty inside]

/-- No word stands for a piece outside of words. -/
theorem find?_between {between : List Char} (full : between ≠ [])
    (outside : ∀ char ∈ between, isWordChar char = false) : renames.find? (·.word == between) = none := by
  refine List.find?_eq_none.mpr fun rename member same => ?_
  obtain ⟨char, present⟩ := List.exists_mem_of_ne_nil between full
  have isWord := (areWords rename member).2 char (eq_of_beq same ▸ present)
  rw [outside char present] at isWord
  cases isWord

/-- In a text of runs and what stands between them each run is replaced as a whole or not at all. -/
theorem rename_flatten {pieces : List (List Char)} (full : [] ∉ pieces)
    (uniform : ∀ piece ∈ pieces,
      (∀ char ∈ piece, isWordChar char = true) ∨ ∀ char ∈ piece, isWordChar char = false)
    (apart : pieces.IsChain fun left right => ∃ leftFull rightFull,
      (isWordChar (left.getLast leftFull) == isWordChar (right.head rightFull)) = false) :
    renameWordsAfter renames none false pieces.flatten =
      pieces.flatMap fun piece => (renames.find? (·.word == piece)).elim piece (·.replacement) := by
  induction pieces with
  | nil => exact renameWordsAfter_nil areWords.nonempty none false
  | cons piece others inductionHypothesis =>
      rw [List.mem_cons, not_or] at full
      obtain ⟨pieceUniform, othersUniform⟩ := List.forall_mem_cons.mp uniform
      obtain ⟨pieceApart, othersApart⟩ := List.isChain_cons.mp apart
      have pieceFull : piece ≠ [] := fun same => full.1 same.symm
      rw [List.flatten_cons, List.flatMap_cons, ← inductionHypothesis full.2 othersUniform othersApart]
      obtain inside | outside := pieceUniform
      · refine areWords.rename_run inside fun char isHead => ?_
        obtain _ | ⟨next, rest⟩ := others
        · cases isHead
        · obtain ⟨_, nextFull, differ⟩ := pieceApart next rfl
          have isFirst : next.head nextFull = char := by
            rw [List.flatten_cons, List.head?_append_of_ne_nil _ nextFull,
              List.head?_eq_some_head nextFull] at isHead
            exact Option.some.inj isHead
          rw [isFirst, inside _ (List.getLast_mem pieceFull)] at differ
          simpa using differ
      · rw [areWords.find?_between pieceFull outside]
        exact areWords.rename_between outside others.flatten

/-- Words are replaced piece by piece: a run that is a word by what the first such gives, all else stays. -/
theorem rename_pieces (text : List Char) : renameWordsAfter renames none false text =
    (wordPieces text).flatMap fun piece => (renames.find? (·.word == piece)).elim piece (·.replacement) := by
  obtain ⟨whole, full, _, apart⟩ := List.splitBy_eq_iff.mp (Eq.refl (wordPieces text))
  have renamed := areWords.rename_flatten full (fun _ => wordPieces_uniform) apart
  rwa [← whole] at renamed

end AreWords

end ObjectMapping.Text
