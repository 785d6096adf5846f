/-
This file proves that no identifier starts with white space or with the mark that a text file may start with,
and that what an identifier starts with can also continue one. Above the seven-bit characters these are facts
about the tables.
-/

import Mathlib.Data.List.Basic
import ObjectMapping.Text.CharClass

namespace ObjectMapping.Text

/-- The lines of a table by their characters, which the kernel computes with much faster than with texts. -/
inductive LinesOf : List String → List (List Char) → Prop
  | nil : LinesOf [] []
  | cons (line : List Char) {texts : List String} {lines : List (List Char)} (rest : LinesOf texts lines) :
      LinesOf (String.ofList line :: texts) (line :: lines)

namespace LinesOf

variable {texts : List String} {lines : List (List Char)} (same : LinesOf texts lines)
include same

theorem flatMap {α : Type} (read : List Char → List α) :
    texts.flatMap (fun text => read text.toList) = lines.flatMap read := by
  induction same with
  | nil => rfl
  | cons line _ inductionHypothesis =>
      rw [List.flatMap_cons, String.toList_ofList, List.flatMap_cons, inductionHypothesis]

theorem ofRanges {P : List CodeRange → Prop}
    (holds : P (lines.flatMap fun line => (splitOnChars (· == ' ') line).map CodeRange.read)) :
    P (CodeRange.readAll texts) := by
  rwa [CodeRange.readAll, same.flatMap fun line => (splitOnChars (· == ' ') line).map CodeRange.read]

end LinesOf

def isBeyond (stretch : Nat × Nat) (range : CodeRange) : Bool :=
  stretch.2 < range.first || range.last < stretch.1

theorem inRanges_beyond {ranges : List CodeRange} {stretch : Nat × Nat} (beyond : ranges.all (isBeyond stretch) = true)
    {char : Char} (low : stretch.1 ≤ char.toNat) (high : char.toNat ≤ stretch.2) : inRanges ranges char = false := by
  rw [inRanges, List.any_eq_false]
  intro range isRange contains
  have outside := List.all_eq_true.mp beyond range isRange
  simp only [CodeRange.contains, Bool.and_eq_true, decide_eq_true_eq] at contains
  rw [isBeyond, Bool.or_eq_true, decide_eq_true_eq, decide_eq_true_eq] at outside
  omega

/-- Whether a stretch lies in a run, which holds only some of the characters between its ends if it has steps. -/
def isWithin (stretch : Nat × Nat) (range : CodeRange) : Bool :=
  stretch.2 ≤ range.last && (range.first ≤ stretch.1 &&
    (range.step == 1 || (stretch.1 == stretch.2 && range.contains stretch.1)))

theorem contains_of_isWithin {stretch : Nat × Nat} {range : CodeRange} (within : isWithin stretch range = true)
    {code : Nat} (low : stretch.1 ≤ code) (high : code ≤ stretch.2) : range.contains code = true := by
  simp only [isWithin, Bool.and_eq_true, Bool.or_eq_true, beq_iff_eq, decide_eq_true_eq] at within
  obtain ⟨last, first, whole | ⟨single, contains⟩⟩ := within
  · simp only [CodeRange.contains, whole, Nat.mod_one, Bool.and_eq_true, decide_eq_true_eq, beq_self_eq_true, and_true]
    omega
  · obtain rfl : code = stretch.1 := by omega
    exact contains

theorem inRanges_within {ranges : List CodeRange} {stretch : Nat × Nat} (within : ranges.any (isWithin stretch) = true)
    {char : Char} (low : stretch.1 ≤ char.toNat) (high : char.toNat ≤ stretch.2) : inRanges ranges char = true := by
  obtain ⟨range, isRange, inside⟩ := List.any_eq_true.mp within
  exact List.any_eq_true.mpr ⟨range, isRange, contains_of_isWithin inside low high⟩

/-- Stretches of characters without letters, which hold the blanks above the seven-bit characters and the
mark of a text file. -/
def foreignStretches : List (Nat × Nat) :=
  [(0x85, 0x85), (0xA0, 0xA0), (0x1680, 0x1680), (0x2000, 0x200F), (0x2028, 0x202F), (0x205F, 0x205F),
    (0x3000, 0x3000), (0xFEFF, 0xFEFF)]

def IsForeign (code : Nat) : Prop := ∃ stretch ∈ foreignStretches, stretch.1 ≤ code ∧ code ≤ stretch.2

theorem inRanges_foreign {ranges : List CodeRange}
    (beyond : ranges.all (fun range => foreignStretches.all (isBeyond · range)) = true) {char : Char}
    (foreign : IsForeign char.toNat) : inRanges ranges char = false := by
  obtain ⟨stretch, isStretch, low, high⟩ := foreign
  refine inRanges_beyond (List.all_eq_true.mpr fun range isRange => ?_) low high
  exact List.all_eq_true.mp (List.all_eq_true.mp beyond range isRange) stretch isStretch

theorem letters_foreign {char : Char} (foreign : IsForeign char.toNat) :
    inRanges CharTable.letters char = false := by
  refine inRanges_foreign ?_ foreign
  apply LinesOf.ofRanges (P := fun ranges => ranges.all (fun range => foreignStretches.all (isBeyond · range)) = true)
  case same =>
    repeat' apply LinesOf.cons
    exact .nil
  case holds => decide +kernel

theorem identifierStartExtras_foreign {char : Char} (foreign : IsForeign char.toNat) :
    inRanges CharTable.identifierStartExtras char = false :=
  inRanges_foreign (by decide +kernel) foreign

theorem isIdentifierStart_foreign {char : Char} (foreign : IsForeign char.toNat) :
    isIdentifierStart char = false := by
  have wide : isSevenBit char = false := by
    obtain ⟨stretch, isStretch, low, _⟩ := foreign
    simp only [foreignStretches, List.mem_cons, List.not_mem_nil, or_false] at isStretch
    refine decide_eq_false ?_
    rcases isStretch with rfl | rfl | rfl | rfl | rfl | rfl | rfl | rfl <;> (simp only at low; omega)
  simp [isIdentifierStart, wide, letters_foreign foreign, identifierStartExtras_foreign foreign]

theorem blanks_foreign {char : Char} (blank : inRanges CharTable.blanks char) :
    IsForeign char.toNat := by
  have ranges : CharTable.blanks.all fun range =>
      foreignStretches.any fun (low, high) => low ≤ range.first && range.last ≤ high := by
    decide +kernel
  obtain ⟨range, isRange, contains⟩ := List.any_eq_true.mp blank
  obtain ⟨stretch, isStretch, inside⟩ := List.any_eq_true.mp (List.all_eq_true.mp ranges range isRange)
  simp only [CodeRange.contains, Bool.and_eq_true, decide_eq_true_eq] at contains inside
  exact ⟨stretch, isStretch, by omega, by omega⟩

/-- No identifier starts with white space. -/
theorem isBlank_start {char : Char} (start : isIdentifierStart char) : isBlank char = false := by
  by_contra blank
  rw [Bool.not_eq_false] at blank
  by_cases sevenBit : isSevenBit char
  · simp only [isBlank, sevenBit, ↓reduceIte, Bool.or_eq_true, beq_iff_eq, Bool.and_eq_true,
      decide_eq_true_eq, Char.le_def, UInt32.le_iff_toNat_le] at blank
    simp only [isIdentifierStart, sevenBit, ↓reduceIte, isBasicLetter, isSmallLetter, isCapitalLetter,
      Bool.or_eq_true, Bool.and_eq_true, decide_eq_true_eq, Char.le_def, UInt32.le_iff_toNat_le,
      beq_iff_eq] at start
    obtain rfl | ⟨_, last⟩ := blank
    · exact absurd start (by decide)
    · have small : char.val.toNat ≤ 13 := last
      obtain (⟨first, _⟩ | ⟨first, _⟩) | rfl := start
      · have large : 97 ≤ char.val.toNat := first
        omega
      · have large : 65 ≤ char.val.toNat := first
        omega
      · exact absurd small (by decide)
  · have foreign : IsForeign char.toNat := by
      simp only [isBlank, sevenBit, Bool.false_eq_true, ↓reduceIte, Bool.or_eq_true, beq_iff_eq] at blank
      obtain (table | rfl) | rfl := blank
      · exact blanks_foreign table
      · exact ⟨(0x2000, 0x200F), by decide, by decide⟩
      · exact ⟨(0x2000, 0x200F), by decide, by decide⟩
    rw [isIdentifierStart_foreign foreign] at start
    cases start

def CodeRange.ends (range : CodeRange) : Nat × Nat := (range.first, range.last)

/-- A letter that continues no identifier does not start one. -/
theorem identifierExceptions_start {char : Char} (isLetter : inRanges CharTable.letters char = true)
    (noStartException : inRanges CharTable.identifierStartExceptions char = false) :
    inRanges CharTable.identifierExceptions char = false := by
  have checked : CharTable.identifierExceptions.all (fun range => CharTable.identifierStartExceptions.contains range ||
      CharTable.letters.all (isBeyond range.ends)) = true := by
    apply LinesOf.ofRanges (P := fun letters => CharTable.identifierExceptions.all (fun range =>
      CharTable.identifierStartExceptions.contains range || letters.all (isBeyond range.ends)) = true)
    case same =>
      repeat' apply LinesOf.cons
      exact .nil
    case holds => decide +kernel
  rw [inRanges, List.any_eq_false] at noStartException ⊢
  intro range isRange contains
  obtain isException | beyond := Bool.or_eq_true_iff.mp (List.all_eq_true.mp checked range isRange)
  · exact noStartException range (List.contains_iff_mem.mp isException) contains
  · simp only [CodeRange.contains, Bool.and_eq_true, decide_eq_true_eq] at contains
    rw [inRanges_beyond beyond contains.1.1 contains.1.2] at isLetter
    cases isLetter

theorem identifierStartExtras_continue {char : Char} (extra : inRanges CharTable.identifierStartExtras char = true) :
    (inRanges CharTable.marks char = true ∧ inRanges CharTable.identifierExceptions char = false) ∨
      inRanges CharTable.identifierExtras char = true := by
  have checked : CharTable.identifierStartExtras.all (fun range =>
      (CharTable.marks.any (isWithin range.ends) && CharTable.identifierExceptions.all (isBeyond range.ends)) ||
        CharTable.identifierExtras.any (isWithin range.ends)) = true := by
    apply LinesOf.ofRanges (P := fun marks => CharTable.identifierStartExtras.all (fun range =>
      (marks.any (isWithin range.ends) && CharTable.identifierExceptions.all (isBeyond range.ends)) ||
        CharTable.identifierExtras.any (isWithin range.ends)) = true)
    case same =>
      repeat' apply LinesOf.cons
      exact .nil
    case holds => decide +kernel
  obtain ⟨range, isRange, contains⟩ := List.any_eq_true.mp extra
  have found := List.all_eq_true.mp checked range isRange
  simp only [CodeRange.contains, Bool.and_eq_true, decide_eq_true_eq] at contains
  obtain ⟨⟨low, high⟩, _⟩ := contains
  obtain isMark | isExtra := Bool.or_eq_true_iff.mp found
  · obtain ⟨within, beyond⟩ := Bool.and_eq_true_iff.mp isMark
    exact .inl ⟨inRanges_within within low high, inRanges_beyond beyond low high⟩
  · exact .inr (inRanges_within isExtra low high)

/-- What an identifier starts with can also continue one. -/
theorem start_continues {char : Char} (start : isIdentifierStart char = true) : isIdentifierContinue char = true := by
  unfold isIdentifierStart at start
  unfold isIdentifierContinue
  split at start
  · next sevenBit =>
      obtain letter | underscore := Bool.or_eq_true_iff.mp start
      · simp [sevenBit, letter]
      · simp [sevenBit, underscore]
  · next wide =>
      obtain letter | extra := Bool.or_eq_true_iff.mp start
      · obtain ⟨isLetter, noStartException⟩ := Bool.and_eq_true_iff.mp letter
        rw [Bool.not_eq_true'] at noStartException
        simp [wide, isLetter, identifierExceptions_start isLetter noStartException]
      · obtain ⟨isMark, noException⟩ | isExtra := identifierStartExtras_continue extra
        · simp [wide, isMark, noException]
        · simp [wide, isExtra]

theorem isIdentifierStart_byteOrderMark : isIdentifierStart '\uFEFF' = false :=
  isIdentifierStart_foreign ⟨(0xFEFF, 0xFEFF), by decide, by decide⟩

end ObjectMapping.Text
