/-
This file reads the value expressions and member selectors that users give in directives.
-/

import ObjectMapping.Directive
import ObjectMapping.Problem
import ObjectMapping.Source.Syntax

namespace ObjectMapping.Mapper

open Source

def directiveProblem (tokens : List Token) (problem : DirectiveProblem) : Problem :=
  ⟨tokensLocation tokens, .directive problem⟩

/-- The name that a closure gives a parameter, or a blank. -/
def closureParam : Pattern → Except Problem String
  | .name _ binder => .ok binder
  | .typed _ inner => closureParam inner
  | .reference _ inner => closureParam inner
  | .wild _ => .ok "_"
  | pattern => .error (directiveProblem pattern.tokens .patternParameter)

/-- The body of a closure; braces around a single expression are taken off. -/
def closureBody : Expression → ClosureBody
  | .wrapped _ inner => closureBody inner
  | .block _ => .block
  | expression => .expression (tokensText expression.tokens)

/-- The value that a closure or the path of a function gives. -/
def transform : Expression → Except Problem Transform
  | .closure tokens params body => do
      let names ← params.mapM closureParam
      .ok (.closure ⟨names, closureBody body, tokensLocation tokens⟩)
  | .path tokens _ _ _ => .ok (.path (tokensText tokens) (tokensLocation tokens))
  | expression => .error (directiveProblem expression.tokens .noTransform)

/-- The member that a closure such as `|d| d.member` selects. -/
def selector (expression : Expression) : Except Problem String :=
  let refusal := Except.error (directiveProblem expression.tokens .noSelector)
  match expression with
  | .closure _ [param] body => do
      let name ← closureParam param
      match body with
      | .field _ (.path _ head _ _) (some member) =>
          if head.ident? == some name then .ok member else refusal
      | _ => refusal
  | _ => refusal

end ObjectMapping.Mapper
