/-
Module: SwaggerDocs.Source.Attribute
Purpose: Attributes of declarations, and the documentation lines among them. A documentation comment is
  an attribute with a text: one of a single line loses one blank at its beginning, and the lines of a
  longer one lose their decoration.
Main exports: Attribute, docLines, documentation
-/
import SwaggerDocs.Docs.Documentation
import SwaggerDocs.Source.Token

namespace SwaggerDocs.Source

open Text (trimStart trimEnd lines)

/-- What follows the path of an attribute. -/
inductive AttributeBody where
  | nothing
  /-- Brackets with any tokens. -/
  | arguments (tokens : List Token)
  /-- A string literal as the value. -/
  | text (value : String)
  /-- Another value. -/
  | value
deriving Repr

/-- An attribute. It has a name if its path is one identifier. -/
structure Attribute where
  name : Option String
  body : AttributeBody
deriving Repr

/-- The text of a documentation attribute. -/
def Attribute.documentation? (self : Attribute) : Option String :=
  if self.name = some "doc" then
    match self.body with
    | .text value => some value
    | _ => none
  else none

/-- The decoration of a line in a longer comment: blanks, an asterisk and one blank. -/
def dropDecoration (line : List Char) : List Char :=
  match trimStart line with
  | '*' :: ' ' :: rest => rest
  | '*' :: rest => rest
  | rest => rest

/-- The lines of a comment text that has line ends. -/
def blockLines (text : List Char) : List (List Char) :=
  (lines text).map fun line => trimEnd (dropDecoration line)

/-- The line of a comment text without line ends. -/
def singleLine (text : List Char) : List Char :=
  match text with
  | ' ' :: rest => trimEnd rest
  | _ => trimEnd text

/-- The list without the empty lines at its end. -/
def dropEmptyEnd (gathered : List (List Char)) : List (List Char) :=
  (gathered.reverse.dropWhile List.isEmpty).reverse

/-- The lines that were gathered before, with those of one more text. The end of a longer text is mere
    decoration: empty lines before it are dropped. -/
def addText (gathered : List (List Char)) (text : List Char) : List (List Char) :=
  if text.contains '\n' then dropEmptyEnd (gathered ++ blockLines text)
  else gathered ++ [singleLine text]

/-- The documentation lines of attributes. -/
def docLines (attributes : List Attribute) : List String :=
  ((attributes.filterMap (·.documentation?)).foldl (fun gathered text =>
    addText gathered text.toList) []).map String.ofList

/-- The documentation of attributes. -/
def documentation (attributes : List Attribute) : Documentation := ⟨docLines attributes⟩

end SwaggerDocs.Source
