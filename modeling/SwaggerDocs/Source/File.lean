/-
Module: SwaggerDocs.Source.File
Purpose: Reading of whole source files. The rules of the grammar are closed under nesting to the depth
  that the number of tokens allows.
Main exports: FileDeclarations.ofText?
-/
import SwaggerDocs.Source.Grammar.Items
import SwaggerDocs.Source.Lexer

namespace SwaggerDocs

namespace Source

open Grammar

/-- Readers for parts that nest at most to a depth. -/
def Inner.within : Nat → Inner
  | 0 => ⟨fun _ => failure, failure, fun _ => failure, failure⟩
  | depth + 1 =>
      let inner := Inner.within depth
      ⟨typeForm inner, Grammar.bound inner false, expressionForm inner, patternForm inner⟩

/-- A file: attributes of the file, and items up to its end. -/
def file (depth : Nat) : TokenReader (List Attribute × Declared) := do
  let inner := Inner.within depth
  let attributes ← innerAttributes inner
  let declared ← itemsWithin inner depth
  return (attributes, declared)

end Source

/-- The declarations of a source text, if it can be read. Each level of nesting takes at least one of
    the tokens. -/
def FileDeclarations.ofText? (path : Path) (text : String) : Option FileDeclarations :=
  match Source.Lexer.tokens? text with
  | none => none
  | some tokens =>
      match (Source.file (2 * Source.Token.weightAll tokens + 2)).run tokens with
      | some ((attributes, declared), []) =>
          some
            { path := path
              docs := Source.documentation attributes
              types := declared.types
              functions := declared.functions }
      | _ => none

end SwaggerDocs
