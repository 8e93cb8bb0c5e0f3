/-
Module: SwaggerDocs.Files.Path
Purpose: Paths of files. A path keeps its text; two paths are the same if their components are, and
  paths are ordered by their components, so that a directory's files come before a sibling whose name
  only begins like the directory's.
Main exports: Path, Path.components, Path.same, Path.before, Path.parent?, Path.join
-/
import SwaggerDocs.Text.Lines

namespace SwaggerDocs

/-- A path as it was written. -/
structure Path where
  text : String
deriving Repr, DecidableEq, Inhabited

/-- One component of a path. A current directory is a component only at the beginning. -/
inductive Path.Component where
  | root
  | current
  | parent
  | normal (name : String)
deriving Repr, DecidableEq

namespace Path

/-- The pieces between the slashes. -/
def pieces (path : Path) : List String := (Text.splitOn '/' path.text.toList).map String.ofList

/-- The path begins at the root of the file system. -/
def isAbsolute (path : Path) : Bool := path.text.toList.head? = some '/'

/-- The component of a piece that is not skipped. -/
def Component.ofPiece (piece : String) : Component :=
  if piece = ".." then .parent else .normal piece

/-- The components of the pieces after the first one: empty pieces and current directories are
    skipped. -/
def componentsOf (pieces : List String) : List Component :=
  (pieces.filter fun piece => piece ≠ "" ∧ piece ≠ ".").map Component.ofPiece

/-- The components of a path. -/
def components (path : Path) : List Component :=
  match path.pieces with
  | [] => []
  | first :: rest =>
      if path.isAbsolute then .root :: componentsOf rest
      else if first = "." then .current :: componentsOf rest
      else componentsOf (first :: rest)

/-- Two paths have the same components. -/
def same (a b : Path) : Bool := a.components = b.components

/-- The place of a component among components of other kinds. -/
def Component.rank : Component → Nat
  | .root => 0
  | .current => 1
  | .parent => 2
  | .normal _ => 3

/-- The order of components; names are ordered by their characters. -/
def Component.lt : Component → Component → Bool
  | .normal a, .normal b => a < b
  | a, b => a.rank < b.rank

/-- The order of component lists: the first difference decides, and a beginning comes before what it
    begins. -/
def componentsLt : List Component → List Component → Bool
  | [], [] => false
  | [], _ :: _ => true
  | _ :: _, [] => false
  | a :: as, b :: bs => if a.lt b then true else if b.lt a then false else componentsLt as bs

/-- The order of paths. -/
def before (a b : Path) : Bool := componentsLt a.components b.components

/-- Drops the pieces at the end that are no components. The first piece is kept if it is a current
    directory. The pieces come and go in reverse. -/
def dropSkipped : List String → List String
  | [] => []
  | [piece] => if piece = "" then [] else [piece]
  | piece :: rest => if piece = "" ∨ piece = "." then dropSkipped rest else piece :: rest

/-- The path without its last component; a path without components has none. -/
def parent? (path : Path) : Option Path :=
  match dropSkipped path.pieces.reverse with
  | [] => none
  | _ :: rest =>
      match dropSkipped rest with
      | [] => some ⟨if path.isAbsolute then "/" else ""⟩
      | kept => some ⟨"/".intercalate kept.reverse⟩

/-- The directory that a path stands in; the empty path stands for the working directory. -/
def directory (path : Path) : Path := path.parent?.getD ⟨""⟩

/-- A path relative to a directory. -/
def join (base : Path) (relative : String) : Path :=
  if relative.toList.head? = some '/' then ⟨relative⟩
  else if base.text.isEmpty ∨ base.text.toList.getLast? = some '/' then ⟨base.text ++ relative⟩
  else ⟨base.text ++ "/" ++ relative⟩

/-- The extension of a file name: what follows its last dot, unless the dot is its first
    character. -/
def extension? (name : String) : Option String :=
  match (Text.splitOn '.' name.toList).reverse with
  | _ :: [[]] => none
  | last :: _ :: _ => if name = ".." then none else some (String.ofList last)
  | _ => none

end Path

end SwaggerDocs
