/-
This file reads comments. A plain comment counts as white space; a documentation comment stands for an
attribute whose value is the text of the comment.
-/

import ObjectMapping.Source.Quoted
import ObjectMapping.Source.Token

namespace ObjectMapping.Source

/-- The rest of a line and what follows it; a carriage return in front of the line feed is dropped. -/
def splitLine : List Char → List Char × List Char
  | [] => ([], [])
  | '\n' :: rest => ([], '\n' :: rest)
  | '\r' :: '\n' :: rest => ([], '\n' :: rest)
  | char :: rest => (char :: (splitLine rest).1, (splitLine rest).2)

/-- The rest of a block comment, inside `depth` further blocks, and what follows it. -/
def splitBlock? (depth : Nat) : List Char → Option (List Char × List Char)
  | [] => none
  | '/' :: '*' :: rest =>
      (splitBlock? (depth + 1) rest).map fun (inside, following) => ('/' :: '*' :: inside, following)
  | '*' :: '/' :: rest =>
      match depth with
      | 0 => some ([], rest)
      | outer + 1 =>
          (splitBlock? outer rest).map fun (inside, following) => ('*' :: '/' :: inside, following)
  | char :: rest =>
      (splitBlock? depth rest).map fun (inside, following) => (char :: inside, following)

theorem splitLineLength (text : List Char) : (splitLine text).2.length ≤ text.length := by
  fun_induction splitLine text with
  | case1 => simp
  | case2 => simp
  | case3 => simp
  | case4 char rest _ _ shorter => simp only [List.length_cons]; omega

theorem splitBlockLength (depth : Nat) (text : List Char) (inside following : List Char)
    (split : splitBlock? depth text = some (inside, following)) :
    following.length ≤ text.length := by
  fun_induction splitBlock? depth text generalizing inside with
  | case1 => simp at split
  | case2 depth rest shorter =>
      obtain ⟨⟨inner, after⟩, found, same⟩ := Option.map_eq_some_iff.mp split
      cases same
      have fewer := shorter inner found
      simp only [List.length_cons]
      omega
  | case3 rest =>
      cases split
      simp only [List.length_cons]
      omega
  | case4 rest outer shorter =>
      obtain ⟨⟨inner, after⟩, found, same⟩ := Option.map_eq_some_iff.mp split
      cases same
      have fewer := shorter inner found
      simp only [List.length_cons]
      omega
  | case5 depth char rest _ _ shorter =>
      obtain ⟨⟨inner, after⟩, found, same⟩ := Option.map_eq_some_iff.mp split
      cases same
      have fewer := shorter inner found
      simp only [List.length_cons]
      omega

/-- Whether a line comment documents what stands next to it, from the text after its two slashes. -/
def isDocLine : List Char → Bool
  | '!' :: _ => true
  | '/' :: '/' :: _ => false
  | '/' :: _ => true
  | _ => false

/-- Whether a block comment documents what stands next to it, from the text after its first star. -/
def isDocBlock : List Char → Bool
  | '!' :: _ => true
  | '*' :: '*' :: _ => false
  | '*' :: '/' :: _ => false
  | '*' :: _ => true
  | _ => false

/-- What follows white space and plain comments. -/
def skipBlanks : List Char → List Char
  | [] => []
  | '/' :: '/' :: rest =>
      if isDocLine rest then '/' :: '/' :: rest
      else
        have := splitLineLength rest
        skipBlanks (splitLine rest).2
  | '/' :: '*' :: rest =>
      if isDocBlock rest then '/' :: '*' :: rest
      else
        match split : splitBlock? 0 rest with
        | some (inside, following) =>
            have := splitBlockLength 0 rest inside following split
            skipBlanks following
        | none => '/' :: '*' :: rest
  | char :: rest => if Text.isBlank char then skipBlanks rest else char :: rest
  termination_by text => text.length
  decreasing_by all_goals simp only [List.length_cons]; omega

theorem skipBlanksLength (text : List Char) : (skipBlanks text).length ≤ text.length := by
  fun_induction skipBlanks text <;> simp only [List.length_cons, List.length_nil] at * <;> omega

/-- Whether every carriage return stands in front of a line feed. -/
def hasNoLoneReturn : List Char → Bool
  | [] => true
  | '\r' :: '\n' :: rest => hasNoLoneReturn rest
  | '\r' :: _ => false
  | _ :: rest => hasNoLoneReturn rest

/-- A documentation comment: whether it documents what it stands in, its text, and what follows. -/
def docComment? : List Char → Option (Bool × List Char × List Char)
  | '/' :: '/' :: kind :: rest =>
      if isDocLine (kind :: rest) then some (kind == '!', splitLine rest) else none
  | '/' :: '*' :: kind :: rest =>
      if isDocBlock (kind :: rest) then
        (splitBlock? 0 rest).map fun split => (kind == '!', split)
      else
        none
  | _ => none

/-- The attribute that a documentation comment stands for. -/
def docLexemes (isInner : Bool) (text : List Char) : List Lexeme :=
  [.mark '#' false] ++ (if isInner then [.mark '!' false] else []) ++
    [.opening .bracket, .word "doc", .mark '=' false, .literal (quoted (String.ofList text)),
      .closing .bracket]

end ObjectMapping.Source
