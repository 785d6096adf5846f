/-
This file renders the values of a plan. A value that is read is moved, copied or cloned as its type asks;
functions that convert take it as a shared borrow.
-/

import ObjectMapping.Host.Basic
import ObjectMapping.Plan
import ObjectMapping.Rendering.Fault
import ObjectMapping.Rendering.Lexemes
import ObjectMapping.Source.File

namespace ObjectMapping.Rendering

open Source

/-- A value in generated code. -/
inductive Value
  /-- A field of a parameter, or the result of a getter. -/
  | place (owner member : String) (kind : MemberKind)
  | variable (name : String)
  /-- What the user wrote. -/
  | written (tokens : List Token)
  | dereferenced (value : Value)
  | cloned (value : Value)
  /-- A copy of what a getter lends. -/
  | owned (value : Value)
  | borrowed (value : Value)
  /-- A borrow of a value that is computed. -/
  | borrowedResult (value : Value)
  | widened (value : Value) (target : Scalar)
  | some (value : Value)
  /-- The result of a function of the mapper itself. -/
  | converted (function : String) (value : Value)
  /-- The result of a method of an included mapper. -/
  | delegated (mapper method : String) (arguments : List Value)
  /-- The transformed elements of a collection that is borrowed. -/
  | collected (source : Value) (binder : String) (transform : Value) (target : CollectionKind)
  /-- The transformed elements of a collection that the user wrote. -/
  | collectedWritten (tokens : List Token) (binder : String) (transform : Value)
      (target : CollectionKind)

/-- The path of the type that elements are collected into. -/
def collectPath : CollectionKind → List String
  | .vec => ["std", "vec", "Vec"]
  | .vecDeque => ["std", "collections", "VecDeque"]
  | .linkedList => ["std", "collections", "LinkedList"]
  | .hashSet => ["std", "collections", "HashSet"]
  | .bTreeSet => ["std", "collections", "BTreeSet"]
  | .binaryHeap => ["std", "collections", "BinaryHeap"]
  | .boxedSlice => ["std", "boxed", "Box"]
  | .rcSlice => ["std", "rc", "Rc"]
  | .arcSlice => ["std", "sync", "Arc"]

def collectType (kind : CollectionKind) : List Lexeme :=
  let element := words "_"
  rootedPath (collectPath kind) ++ angles (if kind.isSlice then brackets element else element)

/-- What follows the iterator over a collection. -/
def collecting (binder : String) (transform : List Lexeme) (target : CollectionKind) :
    List Lexeme :=
  method "map" (sign "|" ++ words binder ++ sign "|" ++ transform) ++
    sign "." ++ words "collect" ++ sign "::" ++ angles (collectType target) ++ parentheses []

mutual

def Value.lexemes : Value → List Lexeme
  | .place owner member .field => words owner ++ sign "." ++ words member
  | .place owner member .property => words owner ++ method member []
  | .variable name => words name
  | .written tokens => Rendering.lexemes tokens
  | .dereferenced value => sign "*" ++ value.lexemes
  | .cloned value => value.lexemes ++ method "clone" []
  | .owned value => value.lexemes ++ method "to_owned" []
  | .borrowed value => sign "&" ++ value.lexemes
  | .borrowedResult value => sign "&" ++ parentheses value.lexemes
  | .widened value target =>
      words target.ident ++ sign "::" ++ words "from" ++ parentheses value.lexemes
  | .some value => optionPath ["Some"] ++ parentheses value.lexemes
  | .converted function value =>
      words "Self" ++ sign "::" ++ words function ++ parentheses value.lexemes
  | .delegated mapper name arguments =>
      words "self" ++ sign "." ++ words mapper ++
        method name (commaSeparated (Value.eachLexemes arguments))
  | .collected source binder transform target =>
      source.lexemes ++ method "iter" [] ++ collecting binder transform.lexemes target
  | .collectedWritten tokens binder transform target =>
      parentheses (Rendering.lexemes tokens) ++ method "into_iter" [] ++
        collecting binder transform.lexemes target

/-- The lexemes of each of the values. -/
def Value.eachLexemes : List Value → List (List Lexeme)
  | [] => []
  | value :: rest => value.lexemes :: Value.eachLexemes rest

end

/-- What the values of a plan are rendered with. -/
structure Scope where
  host : Host
  params : List Parameter

namespace Scope

/-- Whether a member of a parameter is read through a getter that lends it. -/
def isLent (scope : Scope) (owner member : String) : Bool :=
  match scope.params.find? (·.name == owner) with
  | some param =>
      match param.type.nonNullable with
      | .named id => scope.host.isLent id member
      | _ => false
  | none => false

/-- What the user wrote, read again. -/
def written (text : String) : Except GenerationFault (List Token) :=
  match expressionTokens text with
  | .ok tokens => .ok tokens
  | .error fault => refuse Location.startOfText (.rendering (.unreadable text fault.message))

/-- The value that a member read gives away. -/
def readMember (scope : Scope) (owner name : String) (kind : MemberKind) (type : TypeRef) : Value :=
  let place := Value.place owner name kind
  match kind with
  | .field => if type.isCopy then place else .cloned place
  | .property =>
      if !scope.isLent owner name then place
      else if type.isCopy then .dereferenced place
      else .owned place

/-- The shared borrow of an expression with the given value; elements and further parameters are borrowed
already. -/
def borrow (scope : Scope) (expr : Expr) (value : Value) : Value :=
  match expr with
  | .member owner name kind _ =>
      let place := Value.place owner name kind
      if kind == .property && scope.isLent owner name then place else .borrowed place
  | .item name _ => .variable name
  | .param name => .variable name
  | _ => .borrowedResult value

/-- The collection that elements are taken from; a member is read in place. -/
def sourcePlace (expr : Expr) (value : Value) : Value :=
  match expr with
  | .member owner name kind _ => .place owner name kind
  | _ => value

/-- The arguments of a method of an included mapper: the first is borrowed, the others are handed on. -/
def delegateArguments (scope : Scope) (exprs : List Expr) (values : List Value) : List Value :=
  match exprs, values with
  | expr :: _, value :: others => scope.borrow expr value :: others
  | _, values => values

mutual

/-- The value of an expression, which its user owns. -/
def value (scope : Scope) : Expr → Except GenerationFault Value
  | .member owner name kind type => do
      let owner ← identifier owner
      let name ← identifier name
      .ok (scope.readMember owner name kind type)
  | .param name => do
      let name ← identifier name
      .ok (.variable name)
  | .item name type => do
      let binder ← identifier name
      .ok (if type.isCopy then .dereferenced (.variable binder) else .cloned (.variable binder))
  | .verbatim text => do
      let tokens ← written text
      .ok (.written tokens)
  | .widen arg target => do
      let inner ← scope.value arg
      .ok (.widened inner target)
  | .some arg => do
      let inner ← scope.value arg
      .ok (.some inner)
  | .enumConvert function arg => do
      let function ← identifier function
      let inner ← scope.value arg
      .ok (.converted function (scope.borrow arg inner))
  | .delegate mapper method arguments => do
      let field ← identifier mapper
      let method ← identifier method
      let inner ← scope.values arguments
      .ok (.delegated field method (scope.delegateArguments arguments inner))
  | .collect source binder transform target => do
      let place ← scope.value source
      let name ← identifier binder
      let element ← scope.value transform
      .ok (.collected (sourcePlace source place) name element target)
  | .collectVerbatim source binder transform target => do
      let tokens ← written source
      let name ← identifier binder
      let element ← scope.value transform
      .ok (.collectedWritten tokens name element target)

def values (scope : Scope) : List Expr → Except GenerationFault (List Value)
  | [] => .ok []
  | expr :: rest => do
      let first ← scope.value expr
      let others ← scope.values rest
      .ok (first :: others)

end

end Scope

end ObjectMapping.Rendering
