/-
Module: SwaggerDocs.CommandLine.Run
Purpose: Runs of the program: what is logged, what is written, and how a run fails. The log lines of
  each stage stand by themselves, so that a run on a disk can say them as it goes.
Main exports: LogRecord, RunError, Document.render, Run, CommandLine.run
-/
import SwaggerDocs.CommandLine.Arguments
import SwaggerDocs.Generation.Build
import SwaggerDocs.Json.Printer
import SwaggerDocs.Loading.Sources
import SwaggerDocs.Swagger.Encoding
import SwaggerDocs.Yaml.Printer

namespace SwaggerDocs

/-- A line of the log. -/
inductive LogRecord where
  | info (text : String)
  | warning (warning : Warning)
deriving Repr, DecidableEq

/-- The level of a line of the log. -/
def LogRecord.level : LogRecord → String
  | .info _ => "INFO"
  | .warning _ => "WARN"

/-- The text of a line of the log. -/
def LogRecord.text : LogRecord → String
  | .info text => text
  | .warning w => w.message

/-- Why a run fails. -/
inductive RunError where
  | missingSource (path : Path)
  | notLoaded (path : Path) (cause : LoadError)
  | directoryNotMade (path : Path)
  | fileNotWritten (path : Path)
deriving Repr, DecidableEq

/-- The text of a failure. -/
def RunError.message : RunError → String
  | .missingSource path => "Source path does not exist: " ++ path.text
  | .notLoaded path cause => "Failed to load sources from " ++ path.text ++ ": " ++ cause.message
  | .directoryNotMade path => "Failed to create directory: " ++ path.text
  | .fileNotWritten path => "Failed to write to file: " ++ path.text

namespace Document

/-- The text of a document in a format. -/
def render (format : OutputFormat) (document : Document) : String :=
  match format with
  | .json => document.toJson.render
  | .yaml => Yaml.render document.toJson

end Document

namespace CommandLine

/-- The log lines about the options of a run. -/
def optionLog (options : Options) : List LogRecord :=
  [.info ("Source path: " ++ options.source.text),
    .info ("Output format: " ++ options.format.display),
    .info (match options.outputFile? with
      | some path => "Output file: " ++ path.text
      | none => "Output: stdout")] ++
  (if options.keepFirst then [.info "Duplicate definitions: first registration wins"] else [])

/-- The log line at the beginning of loading. -/
def loadLog (options : Options) : LogRecord :=
  .info ("Loading sources from " ++ options.source.text)

/-- The log line about a document without an info block. -/
def infoLog (document : Document) : List LogRecord :=
  match document.info with
  | some _ => []
  | none => [.info "No openapi:info directive found, document has no info block"]

/-- The log lines that come up while a document is made. -/
def buildLog (built : Built) : List LogRecord :=
  infoLog built.document ++ built.warnings.map .warning

/-- The log line about a file that was written. -/
def writtenLog (path : Path) : LogRecord := .info ("Wrote document to " ++ path.text)

/-- The log lines at the end of a run. -/
def summary (graph : Declarations) (document : Document) : List LogRecord := [
  .info "Summary:",
  .info ("  - Files parsed: " ++ toString graph.files.length),
  .info ("  - Definitions: " ++ toString document.definitions.length),
  .info ("  - Paths: " ++ toString document.paths.length),
  .info ("  - Operations: " ++ toString (Paths.operationCount document.paths))]

/-- What a run did. -/
structure Run where
  /-- What was printed on standard output. -/
  printed : String := ""
  /-- The files after the run. -/
  files : FileTree
  log : List LogRecord
  failure : Option RunError := none

/-- Writes a file, and before it the directories above it. -/
def writeFile (files : FileTree) (path : Path) (content : String) :
    FileTree × Option RunError :=
  let made : Except Path FileTree :=
    match path.parent? with
    | none => .ok files
    | some directory =>
        match files.makeDirectories? directory with
        | some files => .ok files
        | none => .error directory
  match made with
  | .error directory => (files, some (.directoryNotMade directory))
  | .ok files =>
      match files.write? path content.toUTF8 with
      | some files => (files, none)
      | none => (files, some (.fileNotWritten path))

/-- Writes a document where the options say, and ends the run. -/
def finish (options : Options) (files : FileTree) (log : List LogRecord) (graph : Declarations)
    (document : Document) : Run :=
  let content := document.render options.format
  match options.outputFile? with
  | none =>
      { printed := content ++ "\n", files := files, log := log ++ summary graph document }
  | some path =>
      match writeFile files path content with
      | (files, some failure) => { files := files, log := log, failure := some failure }
      | (files, none) =>
          { files := files, log := log ++ writtenLog path :: summary graph document }

/-- Runs the program on a tree of files. -/
def run (options : Options) (files : FileTree) : Run :=
  if !files.contains options.source then
    { files := files, log := [], failure := some (.missingSource options.source) }
  else
    let log := optionLog options ++ [loadLog options]
    match Sources.load files options.source with
    | (.error cause, warnings) =>
        { files := files
          log := log ++ warnings.map .warning
          failure := some (.notLoaded options.source cause) }
    | (.ok graph, warnings) =>
        let built := Built.ofDeclarations options.policy files.read? graph
        finish options files (log ++ warnings.map .warning ++ buildLog built) graph built.document

end CommandLine

end SwaggerDocs
