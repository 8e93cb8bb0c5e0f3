/-
Module: SwaggerDocs.Loading.Sources
Purpose: The source files of a program. The root is a file, or a directory that is searched for source
  files in the order of their paths; a file that cannot be read as text, or does not parse, is left out
  with a warning.
Main exports: Sources.Candidate, Sources.candidates, Sources.loadNode, Sources.load
-/
import SwaggerDocs.Files.Tree
import SwaggerDocs.Generation.Warning
import SwaggerDocs.Loading.Error
import SwaggerDocs.Source.File
import SwaggerDocs.Text.Utf8

namespace SwaggerDocs

namespace Sources

/-- A file that may be a source file. -/
structure Candidate where
  path : Path
  content : ByteArray

/-- Names of files and directories that are passed over: hidden ones, and that of build results. -/
def isPassedOver (name : String) : Bool := name.toList.head? = some '.' || name = "target"

/-- The name of a source file. -/
def isSourceName (name : String) : Bool := Path.extension? name = some "rs"

mutual

/-- The source files of a node, which its directory lists under a name. -/
def below (path : Path) (name : String) : FileNode → List Candidate
  | .file content => if isSourceName name then [⟨path, content⟩] else []
  | .directory children => among path children

/-- The source files below the children of a directory. -/
def among (directory : Path) : List (String × FileNode) → List Candidate
  | [] => []
  | (name, child) :: rest =>
      if isPassedOver name then among directory rest
      else below (directory.join name) name child ++ among directory rest

end

/-- The candidates below a root that leads to a node, in the order of their paths. -/
def candidates (root : Path) : FileNode → List Candidate
  | .file content => [⟨root, content⟩]
  | .directory children => (among root children).mergeSort fun a b => !b.path.before a.path

/-- What became of a candidate. -/
inductive Reading where
  | declared (file : FileDeclarations)
  | skipped (warning : Warning)

/-- Reads a candidate. -/
def read (candidate : Candidate) : Reading :=
  match Text.decodeExact? candidate.content with
  | none => .skipped (.unreadableSource candidate.path)
  | some text =>
      match FileDeclarations.ofText? candidate.path text with
      | some file => .declared file
      | none => .skipped (.unparsableSource candidate.path)

/-- The declarations of a candidate that could be read. -/
def Reading.file? : Reading → Option FileDeclarations
  | .declared file => some file
  | .skipped _ => none

/-- The warning about a candidate that could not be read. -/
def Reading.warning? : Reading → Option Warning
  | .declared _ => none
  | .skipped warning => some warning

/-- The error for a root that does not exist. -/
def missingRoot (root : Path) : LoadError :=
  .invalidArgument ("source path does not exist: " ++ root.text)

/-- Loads the sources below a root, given the node that the root leads to. Warnings are given also
    where no source is left. -/
def loadNode (root : Path) : Option FileNode → Except LoadError Declarations × List Warning
  | none => (.error (missingRoot root), [])
  | some node =>
      let readings := (candidates root node).map read
      let files := readings.filterMap Reading.file?
      (if files.isEmpty then .error (.noSources root) else .ok ⟨files⟩,
        readings.filterMap Reading.warning?)

/-- Loads the sources below a root of a file tree. -/
def load (tree : FileTree) (root : Path) : Except LoadError Declarations × List Warning :=
  loadNode root (tree.lookup? root)

end Sources

end SwaggerDocs
