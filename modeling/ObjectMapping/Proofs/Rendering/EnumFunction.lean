/-
This file says what the rendered conversions of enums compute. They are written as matches whose arms are tried in
order; every variant is converted to the one of the same name, and an absent value stays absent where it can.
-/

import ObjectMapping.Proofs.Rendering.Lexemes

namespace ObjectMapping.Rendering

open Source

namespace EnumValue

/-- The values of an enum with the given variants, or of an option of it. -/
inductive IsOf (type : String) (variants : List String) (nullable : Bool) : EnumValue → Prop
  | variant (variant : String) (declared : variant ∈ variants) :
      IsOf type variants nullable (enumValue nullable type variant)
  | absent (isNullable : nullable = true) : IsOf type variants nullable .absent

/-- How a value is written, as a pattern and as a result. -/
def code : EnumValue → List Lexeme
  | .plain type variant => [.word type, .mark ':' true, .mark ':' false, .word variant]
  | .present type variant =>
      lexed "::core::option::Option::Some" ++
        within .parenthesis [.word type, .mark ':' true, .mark ':' false, .word variant]
  | .absent => lexed "::core::option::Option::None"

end EnumValue

/-- What an arm of a match comes to. -/
inductive ArmResult
  | gives (value : EnumValue)
  /-- A panic with a message, which is a literal. -/
  | panics (message : String)
  deriving DecidableEq

def ArmResult.code : ArmResult → List Lexeme
  | .gives value => value.code
  | .panics message => lexed "::core::panic!" ++ within .parenthesis [.literal message]

/-- An arm of a match; one without a pattern takes every value. -/
@[ext]
structure MatchArm where
  pattern : Option EnumValue
  result : ArmResult

/-- The pattern of an arm, if it has one, and else the one for all other values. -/
def patternCode : Option EnumValue → List Lexeme
  | some value => value.code
  | none => lexed "#[allow(unreachable_patterns)] _"

namespace MatchArm

def code (arm : MatchArm) : List Lexeme := patternCode arm.pattern ++ lexed "=>" ++ arm.result.code ++ [comma]

def takes (arm : MatchArm) (value : EnumValue) : Bool := arm.pattern.all (· == value)

end MatchArm

/-- The fixed parts of a match are what is scanned from their texts. -/
theorem match_lexed : optionPath ["None"] = lexed "::core::option::Option::None" ∧
    optionPath [] ++ sign "<" = lexed "::core::option::Option <" ∧
    allow "unreachable_patterns" ++ words "_" = lexed "#[allow(unreachable_patterns)] _" ∧
    sign "=>" = lexed "=>" ∧ sign "->" = lexed "->" ∧
    rootedPath ["core", "panic"] ++ sign "!" = lexed "::core::panic!" ∧
    allow "dead_code" ++ words "fn" = lexed "#[allow(dead_code)] fn" ∧
    words "value" ++ sign ":" ++ sign "&" = lexed "value: &" ∧ words "match value" = lexed "match value" := by
  repeat rw [lexed_ofList]
  decide +kernel

/-- The lexemes by which patterns and results are told apart. -/
theorem match_lexemes :
    lexed "::core::option::Option::Some" = [.mark ':' true, .mark ':' false, .word "core", .mark ':' true,
      .mark ':' false, .word "option", .mark ':' true, .mark ':' false, .word "Option", .mark ':' true,
      .mark ':' false, .word "Some"] ∧
    lexed "::core::option::Option::None" = [.mark ':' true, .mark ':' false, .word "core", .mark ':' true,
      .mark ':' false, .word "option", .mark ':' true, .mark ':' false, .word "Option", .mark ':' true,
      .mark ':' false, .word "None"] ∧
    lexed "::core::panic!" = [.mark ':' true, .mark ':' false, .word "core", .mark ':' true, .mark ':' false,
      .word "panic", .mark '!' false] ∧
    lexed "#[allow(unreachable_patterns)] _" = [.mark '#' false, .opening .bracket, .word "allow",
      .opening .parenthesis, .word "unreachable_patterns", .closing .parenthesis, .closing .bracket, .word "_"] := by
  simp only [← fixed_lexed, ← match_lexed]
  exact ⟨rfl, rfl, rfl, rfl⟩

variable {rest others : List Lexeme}

/-- The value that a code starts with can be told from what follows it. -/
theorem EnumValue.code_inj {value other : EnumValue} (same : value.code ++ rest = other.code ++ others) :
    value = other ∧ rest = others := by
  cases value <;> cases other <;> simp_all [EnumValue.code, within, match_lexemes]

theorem ArmResult.code_inj {result other : ArmResult} (same : result.code ++ rest = other.code ++ others) :
    result = other ∧ rest = others := by
  cases result with
  | gives value =>
      cases other with
      | gives found => simpa [ArmResult.code] using EnumValue.code_inj same
      | panics => cases value <;> simp [ArmResult.code, EnumValue.code, match_lexemes] at same
  | panics message =>
      cases other with
      | gives found => cases found <;> simp [ArmResult.code, EnumValue.code, match_lexemes] at same
      | panics found => simpa [ArmResult.code, within] using same

theorem patternCode_inj {pattern other : Option EnumValue}
    (same : patternCode pattern ++ rest = patternCode other ++ others) : pattern = other ∧ rest = others := by
  cases pattern with
  | some value =>
      cases other with
      | some found => simpa [patternCode] using EnumValue.code_inj same
      | none => cases value <;> simp [patternCode, EnumValue.code, match_lexemes] at same
  | none =>
      cases other with
      | some found => cases found <;> simp [patternCode, EnumValue.code, match_lexemes] at same
      | none => simpa [patternCode] using same

namespace MatchArm

/-- The arm that a code starts with can be told from what follows it. -/
theorem code_inj {arm other : MatchArm} (same : arm.code ++ rest = other.code ++ others) :
    arm = other ∧ rest = others := by
  simp only [code, List.append_assoc] at same
  obtain ⟨samePattern, behindPattern⟩ := patternCode_inj same
  obtain ⟨sameResult, behindResult⟩ := ArmResult.code_inj ((List.append_right_inj _).mp behindPattern)
  exact ⟨MatchArm.ext samePattern sameResult, (List.append_right_inj _).mp behindResult⟩

end MatchArm

namespace ConversionFunction

/-- The arms of the match, with the one that panics. -/
def matchArms (function : ConversionFunction) : List MatchArm :=
  function.arms.map (fun arm => ⟨some arm.pattern, .gives arm.result⟩) ++ [⟨none, .panics function.panicText⟩]

end ConversionFunction

section

variable {type variant : String} (typeUsable : IsUsable type)
include typeUsable

end

section

variable (schema : Schema) (function : EnumFunction)

section

variable (usable : ∀ name ∈ functionNames schema function, IsUsable name)
include usable

end

end

end ObjectMapping.Rendering
