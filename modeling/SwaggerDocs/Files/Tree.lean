/-
Module: SwaggerDocs.Files.Tree
Purpose: Trees of files, without links, and the working directory of a program in them. A path is
  followed piece by piece, from the top of the tree if it is absolute and from the working directory
  otherwise; every piece but the last has to lead to a directory, and what is above the top is the top
  itself. Writing replaces a file or adds one to an existing directory.
Main exports: FileNode, FileNode.get?, FileNode.put, FileNode.locate?, FileTree, FileTree.lookup?,
  FileTree.read?, FileTree.write?, FileTree.makeDirectories?
-/
import SwaggerDocs.Files.Path

namespace SwaggerDocs

/-- A file with its bytes, or a directory with the names that it lists. -/
inductive FileNode where
  | file (content : ByteArray)
  | directory (children : List (String × FileNode))

namespace FileNode

/-- A directory that lists nothing. -/
def empty : FileNode := .directory []

/-- The child of a name. -/
def childOf? (name : String) : List (String × FileNode) → Option FileNode
  | [] => none
  | (n, child) :: rest => if n = name then some child else childOf? name rest

/-- The node at a place, given by names from the top. -/
def get? : FileNode → List String → Option FileNode
  | node, [] => some node
  | .file _, _ :: _ => none
  | .directory children, name :: rest =>
      match childOf? name children with
      | some child => child.get? rest
      | none => none

/-- A directory stands at a place. -/
def isDirectoryAt (top : FileNode) (place : List String) : Bool :=
  match top.get? place with
  | some (.directory _) => true
  | _ => false

/-- Puts a node under a name, in place of an earlier one or at the end of the list. -/
def putChild (name : String) (node : FileNode) : List (String × FileNode) → List (String × FileNode)
  | [] => [(name, node)]
  | (n, child) :: rest =>
      if n = name then (name, node) :: rest else (n, child) :: putChild name node rest

/-- Puts a node at a place. Directories on the way that are missing are added. -/
def put (node : FileNode) : List String → FileNode → FileNode
  | [], _ => node
  | name :: rest, .file _ => .directory [(name, put node rest empty)]
  | name :: rest, .directory children =>
      .directory (putChild name (put node rest ((childOf? name children).getD empty)) children)

/-- Follows one piece of a path from a place. Above the top is the top itself. -/
def step? (top : FileNode) (place : List String) (piece : String) : Option (List String) :=
  match top.get? place with
  | some (.directory children) =>
      if piece = "" ∨ piece = "." then some place
      else if piece = ".." then some place.dropLast
      else if (childOf? piece children).isSome then some (place ++ [piece])
      else none
  | _ => none

/-- The place that pieces of a path lead to from a place. -/
def locate? (top : FileNode) (start pieces : List String) : Option (List String) :=
  pieces.foldlM top.step? start

/-- Makes the directories of a path that are missing, from the top down. A file on the way is in the
    way. `above` holds the pieces that were followed already. -/
def makeFrom? (start : List String) (top : FileNode) (above : List String) :
    List String → Option FileNode
  | [] => some top
  | name :: rest =>
      match top.locate? start (above ++ [name]) with
      | some place =>
          if top.isDirectoryAt place then makeFrom? start top (above ++ [name]) rest else none
      | none =>
          match top.locate? start above with
          | none => none
          | some place =>
              if name ≠ ".." ∧ top.isDirectoryAt place then
                makeFrom? start (put empty (place ++ [name]) top) (above ++ [name]) rest
              else none

end FileNode

/-- The files that a program sees. -/
structure FileTree where
  /-- The directory that absolute paths start from. -/
  top : FileNode
  /-- The place of the working directory, which other paths start from. -/
  workingDirectory : List String := []

namespace FileTree

/-- A tree with nothing but a working directory. -/
def empty : FileTree := { top := .empty }

/-- The place that a path starts from. -/
def start (tree : FileTree) (path : Path) : List String :=
  if path.isAbsolute then [] else tree.workingDirectory

/-- The node of a path. The empty path leads nowhere. -/
def lookup? (tree : FileTree) (path : Path) : Option FileNode :=
  if path.text.isEmpty then none
  else (tree.top.locate? (tree.start path) path.pieces).bind tree.top.get?

/-- The path leads to a file or directory. -/
def contains (tree : FileTree) (path : Path) : Bool := (tree.lookup? path).isSome

/-- The bytes of the file of a path. -/
def read? (tree : FileTree) (path : Path) : Option ByteArray :=
  match tree.lookup? path with
  | some (.file content) => some content
  | _ => none

/-- Writes a file. Its directory has to exist, and no directory may have its name. -/
def write? (tree : FileTree) (path : Path) (content : ByteArray) : Option FileTree :=
  match path.pieces.reverse with
  | [] => none
  | name :: above =>
      if name = "" ∨ name = "." ∨ name = ".." then none
      else
        match tree.top.locate? (tree.start path) above.reverse with
        | none => none
        | some place =>
            match tree.top.get? place with
            | some (.directory children) =>
                match FileNode.childOf? name children with
                | some (.directory _) => none
                | _ => some { tree with top := .put (.file content) (place ++ [name]) tree.top }
            | _ => none

/-- The piece of a path that gives a component. -/
def pieceOf : Path.Component → String
  | .root => ""
  | .current => "."
  | .parent => ".."
  | .normal name => name

/-- Makes a directory and those above it. -/
def makeDirectories? (tree : FileTree) (path : Path) : Option FileTree :=
  (FileNode.makeFrom? (tree.start path) tree.top [] (path.components.map pieceOf)).map fun top =>
    { tree with top := top }

end FileTree

end SwaggerDocs
