/-
Module: SwaggerDocs.Source.Token
Purpose: Tokens of Rust source text. Brackets of the three kinds are matched, so a token list is a list
  of trees.
Main exports: Delimiter, Literal, Token
-/

namespace SwaggerDocs.Source

/-- The kinds of brackets. -/
inductive Delimiter where
  | parenthesis
  | bracket
  | brace
deriving Repr, DecidableEq, Inhabited

/-- A literal. Strings carry the text that they stand for, numbers their spelling. -/
inductive Literal where
  | string (value : String)
  | byteString
  | cString
  | byte
  | character
  | integer (spelling : String)
  | float (spelling : String)
deriving Repr, DecidableEq, Inhabited

/-- A token, or a bracketed list of them. -/
inductive Token where
  /-- An identifier or keyword; a raw one begins with its mark. -/
  | ident (name : String)
  | lifetime (name : String)
  /-- A punctuation character; it is joint if another one follows at once. -/
  | punct (char : Char) (joint : Bool)
  | literal (value : Literal)
  | group (delimiter : Delimiter) (inner : List Token)
deriving Repr, Inhabited

namespace Token

mutual

/-- The number of tokens in a tree, with one for the tree itself. -/
def weight : Token → Nat
  | .group _ inner => 1 + weightAll inner
  | _ => 1

/-- The number of tokens in a list of trees. -/
def weightAll : List Token → Nat
  | [] => 0
  | token :: rest => weight token + weightAll rest

end

end Token

/-- The mark of a raw identifier. -/
def rawMark : List Char := ['r', '#']

/-- The name of an identifier without the mark of a raw one. -/
def plainName (name : String) : String :=
  match name.toList with
  | 'r' :: '#' :: rest => String.ofList rest
  | _ => name

end SwaggerDocs.Source
