/-
This file tells which expressions stand in an expression and of which type a read is.
-/

import ObjectMapping.Expr

namespace ObjectMapping

namespace Expr

/-- The type that is recorded with what reads a value. -/
def readType? : Expr → Option TypeRef
  | .member _ _ _ type => Option.some type
  | .item _ type => Option.some type
  | _ => none

mutual

/-- The expressions that an expression is made of, at any depth. -/
def inside : Expr → List Expr
  | .member _ _ _ _ | .param _ | .item _ _ | .verbatim _ => []
  | .widen value _ => value :: value.inside
  | .some value => value :: value.inside
  | .enumConvert _ value => value :: value.inside
  | .delegate _ _ arguments => allParts arguments
  | .collect source _ transform _ => source :: source.inside ++ transform :: transform.inside
  | .collectVerbatim _ _ transform _ => transform :: transform.inside

def allParts : List Expr → List Expr
  | [] => []
  | expr :: rest => expr :: expr.inside ++ allParts rest

end

/-- The expression itself and those that it is made of. -/
def parts (expr : Expr) : List Expr := expr :: expr.inside

/-- Parameters are made of nothing else. -/
theorem allParts_params (names : List String) : allParts (names.map .param) = names.map .param := by
  induction names with
  | nil => rfl
  | cons name rest inductionHypothesis =>
      rw [List.map_cons, allParts, inductionHypothesis]
      rfl

end Expr

end ObjectMapping
