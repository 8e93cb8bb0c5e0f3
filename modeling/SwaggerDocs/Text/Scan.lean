/-
Module: SwaggerDocs.Text.Scan
Purpose: Steps of readers that work on a list of characters: a run of characters of a class, one
  fixed character, and words.
Main exports: run?, char?, word?, nonBlank?
-/
import SwaggerDocs.Text.Lines

namespace SwaggerDocs.Text

/-- The longest run of characters of a class at the beginning of a text, if it is not empty, and the
    rest. -/
def run? (p : Char → Bool) (cs : List Char) : Option (List Char × List Char) :=
  match cs.takeWhile p with
  | [] => none
  | run => some (run, cs.dropWhile p)

/-- What follows one given character. -/
def char? (c : Char) : List Char → Option (List Char)
  | [] => none
  | d :: rest => if d = c then some rest else none

/-- A run of word characters. -/
def word? (cs : List Char) : Option (List Char × List Char) := run? isWordChar cs

/-- A run of characters that are not blank. -/
def nonBlank? (cs : List Char) : Option (List Char × List Char) := run? (fun c => !isBlank c) cs

end SwaggerDocs.Text
