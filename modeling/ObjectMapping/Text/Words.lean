/-
This file replaces whole words in a text. A word stands where it begins and ends at a boundary, a
place with a word character on one side only. All words are replaced in one pass from left to
right, so a replacement is never replaced again.
-/

import ObjectMapping.Text.CharClass

namespace ObjectMapping.Text

/-- A word and what takes its place. -/
structure WordRename where
  word : List Char
  replacement : List Char
  deriving Repr, DecidableEq

/-- Whether exactly one of two neighbouring characters belongs to a word. -/
def isWordBoundary (before after : Option Char) : Bool :=
  before.any isWordChar != after.any isWordChar

namespace WordRename

/-- Whether the word stands at the head of `text`, whose preceding character is `before`. -/
def standsAt (rename : WordRename) (before : Option Char) (text : List Char) : Bool :=
  rename.word.isPrefixOf text &&
    isWordBoundary before text.head? &&
    isWordBoundary (rename.word.getLast?.or before) (text.drop rename.word.length).head?

end WordRename

/-- Replaces words in `text`, of which the first that stands at a place wins. An empty word is
replaced at a boundary unless `afterWord`, that is, unless a word was replaced right before it. -/
def renameWordsAfter (renames : List WordRename) (before : Option Char) (afterWord : Bool)
    (text : List Char) : List Char :=
  match (renames.find? (·.standsAt before text)).filter
      fun rename => !(afterWord && rename.word.isEmpty) with
  | some rename =>
      if (text.drop rename.word.length).length < text.length then
        rename.replacement ++
          renameWordsAfter renames rename.word.getLast? true (text.drop rename.word.length)
      else if afterWord then
        text
      else
        rename.replacement ++ renameWordsAfter renames before true text
  | none =>
      match text with
      | [] => []
      | char :: rest => char :: renameWordsAfter renames (some char) false rest
  termination_by 2 * text.length + (if afterWord then 0 else 1)
  decreasing_by
    all_goals simp_all
    all_goals omega

def renameWords (renames : List WordRename) (text : String) : String :=
  if renames.isEmpty then text
  else String.ofList (renameWordsAfter renames none false text.toList)

end ObjectMapping.Text
