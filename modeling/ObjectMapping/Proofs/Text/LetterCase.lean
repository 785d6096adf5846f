/-
This file proves that identifiers stay identifiers in lower case: what an identifier starts with is lowered to
what one can start with, and all else that stands in identifiers is kept. Above the seven-bit characters that is
a fact about the tables.
-/

import ObjectMapping.Proofs.Text.CharClass
import ObjectMapping.Text.LetterCase

namespace ObjectMapping.Text

theorem LinesOf.ofRuns {texts : List String} {lines : List (List Char)} (same : LinesOf texts lines)
    {P : List CaseRun → Prop}
    (holds : P (lines.flatMap fun line => (splitOnChars (· == ' ') line).map CaseRun.read)) :
    P (CaseRun.readAll texts) := by
  rwa [CaseRun.readAll, same.flatMap fun line => (splitOnChars (· == ' ') line).map CaseRun.read]

/-- Stretches of letters that can start an identifier, which hold all letters with another lower case, except
those in circles, and their lower cases above the seven-bit characters. -/
def casedStretches : List (Nat × Nat) :=
  [(0xC0, 0xD6), (0xD8, 0xF6), (0xF8, 0x2C1), (0x370, 0x374), (0x376, 0x377), (0x37B, 0x37D), (0x37F, 0x37F),
    (0x386, 0x386), (0x388, 0x38A), (0x38C, 0x38C), (0x38E, 0x3A1), (0x3A3, 0x3F5), (0x3F7, 0x481),
    (0x48A, 0x52F), (0x531, 0x556), (0x560, 0x588), (0x10A0, 0x10C5), (0x10C7, 0x10C7), (0x10CD, 0x10CD),
    (0x10D0, 0x10FA), (0x10FC, 0x1248), (0x13A0, 0x13F5), (0x13F8, 0x13FD), (0x1C80, 0x1C8A),
    (0x1C90, 0x1CBA), (0x1CBD, 0x1CBF), (0x1D00, 0x1DBF), (0x1E00, 0x1F15), (0x1F18, 0x1F1D),
    (0x1F20, 0x1F45), (0x1F48, 0x1F4D), (0x1F50, 0x1F57), (0x1F59, 0x1F59), (0x1F5B, 0x1F5B),
    (0x1F5D, 0x1F5D), (0x1F5F, 0x1F7D), (0x1F80, 0x1FB4), (0x1FB6, 0x1FBC), (0x1FC2, 0x1FC4),
    (0x1FC6, 0x1FCC), (0x1FD0, 0x1FD3), (0x1FD6, 0x1FDB), (0x1FE0, 0x1FEC), (0x1FF2, 0x1FF4),
    (0x1FF6, 0x1FFC), (0x2126, 0x2126), (0x212A, 0x212D), (0x212F, 0x2139), (0x214E, 0x214E),
    (0x2160, 0x2188), (0x2C00, 0x2CE4), (0x2CEB, 0x2CEE), (0x2CF2, 0x2CF3), (0x2D00, 0x2D25),
    (0x2D27, 0x2D27), (0x2D2D, 0x2D2D), (0xA640, 0xA66E), (0xA67F, 0xA69D), (0xA722, 0xA788),
    (0xA78B, 0xA7DC), (0xA7F1, 0xA801), (0xAB30, 0xAB5A), (0xAB70, 0xABE2), (0xFF21, 0xFF3A),
    (0xFF41, 0xFF5A), (0x10400, 0x1049D), (0x104B0, 0x104D3), (0x104D8, 0x104FB), (0x10570, 0x1057A),
    (0x1057C, 0x1058A), (0x1058C, 0x10592), (0x10594, 0x10595), (0x10597, 0x105A1), (0x105A3, 0x105B1),
    (0x105B3, 0x105B9), (0x105BB, 0x105BC), (0x10C80, 0x10CB2), (0x10CC0, 0x10CF2), (0x10D4A, 0x10D65),
    (0x10D6F, 0x10D85), (0x118A0, 0x118DF), (0x16E40, 0x16E7F), (0x16EA0, 0x16EB8), (0x16EBB, 0x16ED3),
    (0x1E900, 0x1E943)]

/-- Whether a stretch of cased letters holds all from one character to another. -/
def areCased (first last : Nat) : Bool := casedStretches.any fun (low, high) => last ≤ high && low ≤ first

/-- The letters in circles, which stand in no identifier. -/
def circled : CaseRun := ⟨⟨0x24B6, 0x24CF, 1⟩, true, 0x1A⟩

/-- The sign for Kelvin, which alone is lowered to a seven-bit letter. -/
def kelvin : CaseRun := ⟨⟨0x212A, 0x212A, 1⟩, false, 0x20BF⟩

def CodeRange.codes (range : CodeRange) : List Nat :=
  List.range' range.first ((range.last - range.first) / range.step + 1) range.step

theorem CodeRange.mem_codes {range : CodeRange} {code : Nat} (contains : range.contains code = true) :
    code ∈ range.codes := by
  simp only [CodeRange.contains, Bool.and_eq_true, decide_eq_true_eq, beq_iff_eq] at contains
  obtain ⟨⟨first, last⟩, multiple⟩ := contains
  have whole : range.step * ((code - range.first) / range.step) = code - range.first :=
    Nat.mul_div_cancel' (Nat.dvd_of_mod_eq_zero multiple)
  have within : (code - range.first) / range.step ≤ (range.last - range.first) / range.step :=
    Nat.div_le_div_right (Nat.sub_le_sub_right last _)
  exact List.mem_range'.mpr ⟨_, Nat.lt_succ_of_le within, by omega⟩

namespace CaseRun

/-- Whether the run takes cased letters to cased letters. -/
def isCased (run : CaseRun) : Bool :=
  (areCased run.range.first run.range.last || run.range.codes.all fun code => areCased code code) &&
    areCased (run.apply run.range.first) (run.apply run.range.last)

theorem isCased_apply {run : CaseRun} (cased : run.isCased = true) {code : Nat}
    (contains : run.range.contains code = true) :
    areCased code code = true ∧ areCased (run.apply code) (run.apply code) = true := by
  have inside := contains
  simp only [CodeRange.contains, Bool.and_eq_true, decide_eq_true_eq] at inside
  obtain ⟨⟨first, last⟩, _⟩ := inside
  have within {low high one : Nat} (cased : areCased low high = true) (lower : low ≤ one) (upper : one ≤ high) :
      areCased one one = true := by
    obtain ⟨stretch, isStretch, holds⟩ := List.any_eq_true.mp cased
    refine List.any_eq_true.mpr ⟨stretch, isStretch, ?_⟩
    simp only [Bool.and_eq_true, decide_eq_true_eq] at holds ⊢
    omega
  obtain ⟨sources, targets⟩ := Bool.and_eq_true_iff.mp cased
  constructor
  · obtain together | each := Bool.or_eq_true_iff.mp sources
    · exact within together first last
    · exact List.all_eq_true.mp each code (CodeRange.mem_codes contains)
  · refine within targets ?_ ?_ <;> (unfold apply; split <;> omega)

end CaseRun

theorem runs_areCased : toLowercase.runs.all (fun run => [circled, kelvin].contains run || run.isCased) = true := by
  apply LinesOf.ofRuns (P := fun runs => runs.all (fun run => [circled, kelvin].contains run || run.isCased) = true)
  case same =>
    repeat' apply LinesOf.cons
    exact .nil
  case holds => decide +kernel

/-- Circled letters are no letters that identifiers hold. -/
theorem circled_continue {char : Char} (low : 0x24B6 ≤ char.toNat) (high : char.toNat ≤ 0x24CF) :
    isIdentifierContinue char = false := by
  have outside {texts : List String} {lines : List (List Char)} (same : LinesOf texts lines)
      (beyond : (lines.flatMap fun line => (splitOnChars (· == ' ') line).map CodeRange.read).all
        (isBeyond (0x24B6, 0x24CF)) = true) : inRanges (CodeRange.readAll texts) char = false :=
    inRanges_beyond (same.ofRanges (P := fun ranges => ranges.all (isBeyond (0x24B6, 0x24CF)) = true) beyond) low high
  have tables : inRanges CharTable.letters char = false ∧ inRanges CharTable.marks char = false ∧
      inRanges CharTable.decimals char = false ∧ inRanges CharTable.identifierExtras char = false := by
    refine ⟨?_, ?_, ?_, ?_⟩
    all_goals
      apply outside
      case same =>
        repeat' apply LinesOf.cons
        exact .nil
      case beyond => decide +kernel
  obtain ⟨noLetter, noMark, noDecimal, noExtra⟩ := tables
  have wide : isSevenBit char = false := by
    rw [isSevenBit, decide_eq_false_iff_not]
    omega
  simp [isIdentifierContinue, wide, noLetter, noMark, noDecimal, noExtra]

theorem casedStretches_within :
    casedStretches.all (fun stretch => CharTable.letters.any (isWithin stretch)) = true := by
  apply LinesOf.ofRanges (P := fun letters => casedStretches.all (fun stretch => letters.any (isWithin stretch)) = true)
  case same =>
    repeat' apply LinesOf.cons
    exact .nil
  case holds => decide +kernel

theorem casedStretches_plain : casedStretches.all (fun stretch =>
    CharTable.identifierStartExceptions.all (isBeyond stretch) &&
      CharTable.identifierExceptions.all (isBeyond stretch)) = true := by
  decide +kernel

theorem casedStretches_wide : casedStretches.all (fun (low, high) =>
    128 ≤ low && (high < 0xD800 || (0xDFFF < low && high < 0x110000))) = true := by
  decide

/-- A cased letter can stand anywhere in an identifier. -/
theorem cased_isIdentifier {char : Char} (cased : areCased char.toNat char.toNat = true) :
    isIdentifierStart char ∧ isIdentifierContinue char := by
  obtain ⟨stretch, isStretch, holds⟩ := List.any_eq_true.mp cased
  rw [Bool.and_eq_true, decide_eq_true_eq, decide_eq_true_eq] at holds
  obtain ⟨high, low⟩ := holds
  obtain ⟨range, isRange, within⟩ := List.any_eq_true.mp (List.all_eq_true.mp casedStretches_within stretch isStretch)
  have plain := List.all_eq_true.mp casedStretches_plain stretch isStretch
  have wide := List.all_eq_true.mp casedStretches_wide stretch isStretch
  simp only [Bool.and_eq_true, decide_eq_true_eq] at plain wide
  have isLetter : inRanges CharTable.letters char = true :=
    List.any_eq_true.mpr ⟨range, isRange, contains_of_isWithin within low high⟩
  have noStartException := inRanges_beyond plain.1 low high
  have noException := inRanges_beyond plain.2 low high
  have large : isSevenBit char = false := by
    rw [isSevenBit, decide_eq_false_iff_not]
    omega
  simp [isIdentifierStart, isIdentifierContinue, large, isLetter, noStartException, noException]

theorem toNat_ofNat {code : Nat} (cased : areCased code code = true) : (Char.ofNat code).toNat = code := by
  obtain ⟨stretch, isStretch, holds⟩ := List.any_eq_true.mp cased
  have wide := List.all_eq_true.mp casedStretches_wide stretch isStretch
  simp only [Bool.and_eq_true, Bool.or_eq_true, decide_eq_true_eq] at holds wide
  have valid : code.isValidChar := by
    unfold Nat.isValidChar
    omega
  rw [Char.ofNat, dif_pos valid]
  rfl

/-- The ways in which a character of an identifier is lowered. -/
inductive Lowers (char : Char) : List Char → Prop
  | kept : Lowers char [char]
  | lowered (first : Char) (others : List Char) (start : isIdentifierStart char) (firstStart : isIdentifierStart first)
      (continues : ∀ other ∈ first :: others, isIdentifierContinue other) : Lowers char (first :: others)

/-- Capital letters of the seven-bit range are lowered to small ones. -/
theorem lowers_capital {char : Char} (capital : isCapitalLetter char) :
    Lowers char [Char.ofNat (char.toNat + 32)] := by
  have small : ∀ offset < 26, isIdentifierStart (Char.ofNat (97 + offset)) ∧
      isIdentifierContinue (Char.ofNat (97 + offset)) := by
    decide
  have between : 65 ≤ char.toNat ∧ char.toNat ≤ 90 := by
    simp only [isCapitalLetter, Bool.and_eq_true, decide_eq_true_eq, Char.le_def, UInt32.le_iff_toNat_le] at capital
    exact capital
  have sevenBit : isSevenBit char := decide_eq_true (by omega)
  have start : isIdentifierStart char := by
    simp [isIdentifierStart, sevenBit, isBasicLetter, capital]
  obtain ⟨smallStart, smallContinues⟩ := small (char.toNat - 65) (by omega)
  rw [show 97 + (char.toNat - 65) = char.toNat + 32 by omega] at smallStart smallContinues
  exact .lowered _ [] start smallStart (List.forall_mem_singleton.mpr smallContinues)

/-- The dot that is left of a capital dotted i continues an identifier. -/
theorem dot_continues : isIdentifierContinue '\u0307' := by
  have isMark : inRanges CharTable.marks '\u0307' = true := by
    apply LinesOf.ofRanges (P := fun marks => inRanges marks '\u0307' = true)
    case same =>
      repeat' apply LinesOf.cons
      exact .nil
    case holds => decide +kernel
  have noException : inRanges CharTable.identifierExceptions '\u0307' = false := by decide +kernel
  have wide : isSevenBit '\u0307' = false := rfl
  simp [isIdentifierContinue, wide, isMark, noException]

theorem lowers_wide {char : Char} (continues : isIdentifierContinue char) :
    Lowers char (toLowercase.apply char) := by
  have sequences : toLowercase.sequences = [⟨0x130, ['i', '\u0307']⟩] := by decide +kernel
  have cased {code : Nat} (isCode : char.toNat = code) (cased : areCased code code = true) :
      isIdentifierStart char := by
    rw [← isCode] at cased
    exact (cased_isIdentifier cased).1
  rw [CaseMap.apply, sequences]
  split
  · next sequence found =>
      obtain rfl := List.mem_singleton.mp (List.mem_of_find?_eq_some found)
      have isCode := List.find?_some found
      have isDotted : char.toNat = 0x130 := (beq_iff_eq.mp isCode).symm
      refine .lowered 'i' ['\u0307'] (cased isDotted (by decide)) rfl ?_
      exact List.forall_mem_cons.mpr ⟨rfl, List.forall_mem_singleton.mpr dot_continues⟩
  · split
    · next run found =>
        have contains := List.find?_some found
        have checked := List.all_eq_true.mp runs_areCased run (List.mem_of_find?_eq_some found)
        rw [Bool.or_eq_true, List.contains_iff_mem, List.mem_cons, List.mem_singleton] at checked
        obtain (rfl | rfl) | isCased := checked
        · simp only [CodeRange.contains, Bool.and_eq_true, decide_eq_true_eq] at contains
          rw [circled_continue contains.1.1 contains.1.2] at continues
          cases continues
        · simp only [CodeRange.contains, Bool.and_eq_true, decide_eq_true_eq] at contains
          have isKelvin : char.toNat = 0x212A := Nat.le_antisymm contains.1.2 contains.1.1
          rw [isKelvin]
          exact .lowered 'k' [] (cased isKelvin (by decide)) rfl (List.forall_mem_singleton.mpr rfl)
        · obtain ⟨source, target⟩ := CaseRun.isCased_apply isCased contains
          rw [← toNat_ofNat target] at target
          obtain ⟨firstStart, firstContinues⟩ := cased_isIdentifier target
          exact .lowered _ [] (cased_isIdentifier source).1 firstStart (List.forall_mem_singleton.mpr firstContinues)
    · exact .kept

/-- A character of an identifier is lowered to characters of identifiers. -/
theorem lowerChar_lowers {char : Char} (continues : isIdentifierContinue char) : Lowers char (lowerChar char) := by
  unfold lowerChar
  split
  · split
    · next capital => exact lowers_capital capital
    · exact .kept
  · exact lowers_wide continues

end ObjectMapping.Text
