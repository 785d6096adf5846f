/-
This file proves which names can stand as identifiers in generated code: those that the scanner reads as words.
A name in snake case is one of them if it begins with a letter; behind other letters it always is.
-/

import ObjectMapping.Proofs.EnumNaming
import ObjectMapping.Proofs.Mapper.Transform
import ObjectMapping.Proofs.Name
import ObjectMapping.Proofs.Rendering.Value
import ObjectMapping.Proofs.Source.Decimal

namespace ObjectMapping.Rendering

open Source Text

theorem isWord_iff (text : List Char) : isWord text = true ↔
    text.head?.any isIdentifierStart = true ∧ ∀ char ∈ text.tail, isIdentifierContinue char = true := by
  cases text with
  | nil => simp [isWord]
  | cons first others => simp [isWord]

/-- No word starts with the sign of raw identifiers. -/
theorem isWord_ne_raw {text : List Char} (word : isWord text = true) (rest : List Char) :
    text ≠ 'r' :: '#' :: rest := by
  rintro rfl
  rw [isWord, List.all_cons, show isIdentifierContinue '#' = false from rfl, Bool.false_and, Bool.and_false] at word
  cases word

theorem isIdentifier_iff (text : List Char) : isIdentifier text = true ↔ IsIdentifier text := by
  constructor
  · intro holds
    fun_cases isIdentifier text with
    | case1 raw =>
        rw [isIdentifier, Bool.and_eq_true, Bool.not_eq_true'] at holds
        obtain ⟨isWord, allowed⟩ := holds
        cases raw with
        | nil => cases isWord
        | cons first others =>
            obtain ⟨start, continues⟩ := (isWord_iff _).mp isWord
            exact .raw first others start continues allowed
    | case2 _ notRaw =>
        rw [isIdentifier.eq_2 _ notRaw] at holds
        cases text with
        | nil => cases holds
        | cons first others =>
            obtain ⟨start, continues⟩ := (isWord_iff _).mp holds
            exact .plain first others start continues
  · intro identifier
    cases identifier with
    | plain first others start continues =>
        have word : isWord (first :: others) = true := (isWord_iff _).mpr ⟨start, continues⟩
        rw [isIdentifier.eq_2 _ (isWord_ne_raw word)]
        exact word
    | raw first others start continues allowed =>
        rw [isIdentifier, Bool.and_eq_true, Bool.not_eq_true']
        exact ⟨(isWord_iff _).mpr ⟨start, continues⟩, allowed⟩

theorem isUsable_iff (name : String) : IsUsable name ↔ IsIdentifier name.toList := by
  rw [← isIdentifier_iff, IsUsable, identifier]
  split <;> simp_all

/-- A name that the scanner reads as a word can stand as an identifier. -/
theorem isUsable_of_isName {name : String} (isName : IsName name) : IsUsable name :=
  (isUsable_iff name).mpr (Lexeme.IsSpelt.word isName)

/-- A name without the sign of raw identifiers is usable if it starts like an identifier. -/
theorem isUsable_of_continues {name : String} (continues : ∀ char ∈ name.toList, isIdentifierContinue char = true) :
    IsUsable name ↔ name.toList.head?.any isIdentifierStart = true := by
  rw [isUsable_iff]
  generalize name.toList = text at continues
  constructor
  · intro identifier
    exact identifier.start
  · intro start
    cases text with
    | nil => cases start
    | cons first others =>
        exact .plain first others start fun char member => continues char (List.mem_cons_of_mem _ member)

/-- The letters and digits of the name can stand in identifiers. -/
def HasLetters (name : String) : Prop :=
  ∀ char ∈ name.toList, isAlphanumeric char = true → isIdentifierContinue char = true

instance (name : String) : Decidable (HasLetters name) := List.decidableBAll _ _

theorem HasLetters.append {first second : String} (ofFirst : HasLetters first) (ofSecond : HasLetters second) :
    HasLetters (first ++ second) := by
  intro char present
  rw [String.toList_append] at present
  exact (List.mem_append.mp present).elim (ofFirst char) (ofSecond char)

theorem IsUsable.hasLetters {name : String} (usable : IsUsable name) : HasLetters name := by
  have inWord {first : Char} {others : List Char} (start : isIdentifierStart first = true)
      (continues : ∀ char ∈ others, isIdentifierContinue char = true) :
      ∀ char ∈ first :: others, isIdentifierContinue char = true :=
    List.forall_mem_cons.mpr ⟨start_continues start, continues⟩
  intro char present isLetter
  rw [isUsable_iff] at usable
  generalize name.toList = text at usable present
  cases usable with
  | plain first others start continues => exact inWord start continues char present
  | raw first others start continues =>
      obtain rfl | present := List.mem_cons.mp present
      · rfl
      · obtain rfl | present := List.mem_cons.mp present
        · cases isLetter
        · exact inWord start continues char present

/-- In snake case a name is usable if and only if its first letter or digit can start an identifier. -/
theorem isUsable_snakeCase {name : String} (letters : HasLetters name) :
    IsUsable (Name.ofText name).snakeCase ↔ Name.LeadsWithLetter name := by
  obtain ⟨continues, start⟩ := Name.snakeCase_lowers letters
  rw [isUsable_of_continues continues, start]

/-- The text continues identifiers. -/
def Continues (text : String) : Prop := ∀ char ∈ text.toList, isIdentifierContinue char = true

instance (text : String) : Decidable (Continues text) := List.decidableBAll _ _

namespace Continues

variable {first second : String}

theorem hasLetters (continues : Continues first) : HasLetters first := fun char present _ => continues char present

theorem append (firstContinues : Continues first) (secondContinues : Continues second) :
    Continues (first ++ second) := by
  intro char present
  rw [String.toList_append] at present
  exact (List.mem_append.mp present).elim (firstContinues char) (secondContinues char)

theorem snakeCase {name : String} (letters : HasLetters name) : Continues (Name.ofText name).snakeCase :=
  (Name.snakeCase_lowers letters).1

theorem decimal (number : Nat) : Continues (toString number) := by
  have chars : (toString number).toList = Nat.toDigits 10 number := by simp [toString, Nat.repr]
  intro char present
  rw [chars] at present
  have isDigit := (toDigits_digit present).1
  have sevenBit : isSevenBit char = true := by
    simp only [isDecimalDigit, Bool.and_eq_true, decide_eq_true_eq, Char.le_def, UInt32.le_iff_toNat_le] at isDigit
    have small : char.val.toNat ≤ 57 := isDigit.2
    exact decide_eq_true (Nat.lt_of_le_of_lt small (by decide))
  simp [isIdentifierContinue, sevenBit, isDigit]

/-- What continues an identifier can stand behind a usable name without the sign of raw identifiers. -/
theorem usable (firstContinues : Continues first) (start : IsUsable first) (secondContinues : Continues second) :
    IsUsable (first ++ second) := by
  rw [isUsable_of_continues firstContinues] at start
  rw [isUsable_of_continues (firstContinues.append secondContinues), String.toList_append]
  cases chars : first.toList with
  | nil =>
      rw [chars] at start
      cases start
  | cons char others =>
      rw [chars] at start
      exact start

end Continues

/-- The names of enum functions are usable. -/
theorem isFirstFree_usable {taken : List String} {source destination name : String} (ofSource : Continues source)
    (ofDestination : Continues destination)
    (isFree : EnumRegistry.IsFirstFree taken source destination name) : IsUsable name := by
  have map : Continues "map_" := by decide
  have usable {rest : String} (continues : Continues rest) : IsUsable ("map_" ++ rest) := map.usable rfl continues
  have before : Continues "to_" := by decide
  have between : Continues "_to_" := by decide
  have underscore : Continues "_" := by decide
  cases isFree with
  | short =>
      have same : s!"map_to_{destination}" = "map_" ++ ("to_" ++ destination) := by
        rw [← String.append_assoc]
        rfl
      exact same ▸ usable (before.append ofDestination)
  | long =>
      have same : s!"map_{source}_to_{destination}" = "map_" ++ (source ++ ("_to_" ++ destination)) := by
        simp only [toString, String.append_assoc]
      exact same ▸ usable (ofSource.append (between.append ofDestination))
  | numbered number =>
      have same : s!"map_{source}_to_{destination}_{number}" =
          "map_" ++ (source ++ ("_to_" ++ (destination ++ ("_" ++ toString number)))) := by
        simp only [toString, String.append_assoc]
      have numbered := underscore.append (.decimal number)
      exact same ▸ usable (ofSource.append (between.append (ofDestination.append numbered)))

end ObjectMapping.Rendering
