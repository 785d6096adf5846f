/-
This file renders the functions that convert one enum into another. A value is converted to the variant
of the same name; what cannot be converted makes the function panic.
-/

import ObjectMapping.EnumFunction
import ObjectMapping.Rendering.Fault
import ObjectMapping.Rendering.Lexemes
import ObjectMapping.Source.Quoted

namespace ObjectMapping.Rendering

open Source

/-- A value of an enum, or of an option of it. -/
inductive EnumValue
  | plain (type variant : String)
  | present (type variant : String)
  | absent
  deriving Repr, DecidableEq

structure EnumArm where
  pattern : EnumValue
  result : EnumValue
  deriving Repr, DecidableEq

structure ConversionFunction where
  name : String
  source : String
  destination : String
  sourceNullable : Bool
  destinationNullable : Bool
  /-- The arms in the order in which they are tried; a last one panics. -/
  arms : List EnumArm
  deriving Repr, DecidableEq

def enumValue (nullable : Bool) (type variant : String) : EnumValue :=
  if nullable then .present type variant else .plain type variant

def conversionFunction (schema : Schema) (function : EnumFunction) : ConversionFunction :=
  let source := schema.identOf function.key.source
  let destination := schema.identOf function.key.destination
  let variantArms := function.variants.map fun variant =>
    EnumArm.mk (enumValue function.key.sourceNullable source variant)
      (enumValue function.key.destinationNullable destination variant)
  let noneArms :=
    if function.key.sourceNullable && function.key.destinationNullable then
      [EnumArm.mk .absent .absent]
    else
      []
  { name := function.name
    source := source
    destination := destination
    sourceNullable := function.key.sourceNullable
    destinationNullable := function.key.destinationNullable
    arms := variantArms ++ noneArms }

/-- The names that a function is written with. -/
def functionNames (schema : Schema) (function : EnumFunction) : List String :=
  function.name :: schema.identOf function.key.source :: schema.identOf function.key.destination ::
    function.variants

def renderFunction (schema : Schema) (function : EnumFunction) :
    Except GenerationFault ConversionFunction := do
  let _ ← (functionNames schema function).mapM identifier
  .ok (conversionFunction schema function)

namespace EnumValue

def variantPath (type variant : String) : List Lexeme := words type ++ sign "::" ++ words variant

def lexemes : EnumValue → List Lexeme
  | .plain type variant => variantPath type variant
  | .present type variant => optionPath ["Some"] ++ parentheses (variantPath type variant)
  | .absent => optionPath ["None"]

end EnumValue

def EnumArm.lexemes (arm : EnumArm) : List Lexeme :=
  arm.pattern.lexemes ++ sign "=>" ++ arm.result.lexemes ++ sign ","

namespace ConversionFunction

def typeLexemes (nullable : Bool) (type : String) : List Lexeme :=
  if nullable then optionPath [] ++ angles (words type) else words type

/-- The message of the panic, as a literal. -/
def panicText (function : ConversionFunction) : String :=
  quoted (s!"unexpected value of enum `{function.source}` " ++
    s!"while mapping to `{function.destination}`")

def panicArm (function : ConversionFunction) : List Lexeme :=
  allow "unreachable_patterns" ++ words "_" ++ sign "=>" ++ rootedPath ["core", "panic"] ++
    sign "!" ++ parentheses [.literal function.panicText] ++ sign ","

def lexemes (function : ConversionFunction) : List Lexeme :=
  allow "dead_code" ++ words "fn" ++ words function.name ++
    parentheses (words "value" ++ sign ":" ++ sign "&" ++
      typeLexemes function.sourceNullable function.source) ++
    sign "->" ++ typeLexemes function.destinationNullable function.destination ++
    braces (words "match value" ++
      braces (function.arms.flatMap EnumArm.lexemes ++ function.panicArm))

end ConversionFunction

end ObjectMapping.Rendering
