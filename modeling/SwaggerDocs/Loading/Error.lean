/-
Module: SwaggerDocs.Loading.Error
Purpose: The failures that end a run before there are any declarations. Whatever comes up later is a
  warning.
Main exports: LoadError, LoadError.message, LoadError.cause?
-/
import SwaggerDocs.Files.Path

namespace SwaggerDocs

/-- Why no declarations could be had. -/
inductive LoadError where
  /-- The file system refused a file. -/
  | io (message : String)
  /-- A source text does not parse. -/
  | unparsable (file : Path) (message : String)
  | invalidArgument (message : String)
  /-- No file below the root could be read and parsed. -/
  | noSources (root : Path)
deriving Repr, DecidableEq

namespace LoadError

/-- The text of an error. -/
def message : LoadError → String
  | .io message => "IO error: " ++ message
  | .unparsable file message => "Parse error in " ++ file.text ++ ": " ++ message
  | .invalidArgument message => "Invalid argument: " ++ message
  | .noSources root => "No Rust source could be loaded from " ++ root.text

/-- The text of the error behind an error. -/
def cause? : LoadError → Option String
  | .io message => some message
  | _ => none

end LoadError

end SwaggerDocs
