/-
Module: SwaggerDocs.Main
Purpose: The command line. Reads the sources from the disk, prints the document or writes it to a file,
  and logs to standard error. What is loaded, made and said is decided by the modules below this one.
Main exports: main
-/
import SwaggerDocs.CommandLine.Run

namespace SwaggerDocs

namespace CommandLine

/-- What the program says about arguments that are not accepted. -/
def usage : String :=
  "Usage: openapi-from-docs [OPTIONS] <SOURCE_PATH>\n\n" ++
  "Arguments:\n  <SOURCE_PATH>  Source file or directory to scan\n\n" ++
  "Options:\n" ++
  "  -f, --format <FORMAT>        Output format [default: json] [possible values: json, yaml]\n" ++
  "  -o, --output <FILE>          Output file path (stdout if not specified or \"-\")\n" ++
  "      --keep-first-definition  Keep the first schema registered under an identifier\n" ++
  "  -v, --verbose                Enable verbose output\n" ++
  "  -h, --help                   Print help\n" ++
  "  -V, --version                Print version\n"

/-- Logs a line. -/
def say (record : LogRecord) : IO Unit := IO.eprintln (record.level ++ " " ++ record.text)

/-- The bytes of a file that can be read. -/
def readFile? (path : Path) : IO (Option ByteArray) := do
  try
    return some (← IO.FS.readBinFile path.text)
  catch _ => return none

/-- The children of a directory that can hold sources. Directories that are passed over and files of
    other kinds are not read. -/
partial def readChildren (directory : Path) : IO (List (String × FileNode)) := do
  let top : IO.FS.DirEntry := { root := directory.text, fileName := "." }
  let mut children := []
  for entry in ← top.path.readDir do
    let name := entry.fileName
    let path := directory.join name
    if Sources.isPassedOver name then
      continue
    if ← entry.path.isDir then
      children := (name, FileNode.directory (← readChildren path)) :: children
    else if Sources.isSourceName name then
      match ← readFile? path with
      | some content => children := (name, .file content) :: children
      | none => say (.warning (.unreadableSource path))
  return children

/-- The source root, if it exists. -/
def readRoot? (root : Path) : IO (Option FileNode) := do
  match ← readFile? root with
  | some content => return some (.file content)
  | none =>
      try
        return some (.directory (← readChildren root))
      catch _ => return none

/-- The example files that the functions of a program name and that can be read. -/
def readExamples (graph : Declarations) : IO Generation.ExampleFiles := do
  let contents ← (Generation.exampleFiles graph).mapM fun path => do
    return (path, ← readFile? path)
  return fun path => (contents.find? fun entry => entry.1 = path).bind (·.2)

/-- Writes a file, and before it the directories above it. -/
def writeOutput (path : Path) (content : String) : IO (Option RunError) := do
  let directory := path.directory
  try
    if !directory.text.isEmpty then IO.FS.createDirAll directory.text
  catch _ => return some (.directoryNotMade directory)
  try
    IO.FS.writeFile path.text content
    return none
  catch _ => return some (.fileNotWritten path)

/-- Runs the program on the disk. -/
def runOnDisk (options : Options) : IO (Option RunError) := do
  match ← readRoot? options.source with
  | none => return some (.missingSource options.source)
  | some root =>
      (optionLog options).forM say
      say (loadLog options)
      let (loaded, warnings) := Sources.loadNode options.source (some root)
      warnings.forM fun w => say (.warning w)
      match loaded with
      | .error cause => return some (.notLoaded options.source cause)
      | .ok graph =>
          let built := Built.ofDeclarations options.policy (← readExamples graph) graph
          (buildLog built).forM say
          let content := built.document.render options.format
          match options.outputFile? with
          | none => IO.println content
          | some path =>
              if let some failure ← writeOutput path content then
                return some failure
              say (writtenLog path)
          (summary graph built.document).forM say
          return none

end CommandLine

end SwaggerDocs

open SwaggerDocs in
/-- Makes the document of the sources that the arguments name. -/
def main (arguments : List String) : IO UInt32 := do
  match Options.ofArguments arguments with
  | .error .help =>
      IO.print CommandLine.usage
      return 0
  | .error .version =>
      IO.print versionText
      return 0
  | .error _ =>
      IO.eprint CommandLine.usage
      return 2
  | .ok options =>
      match ← CommandLine.runOnDisk options with
      | some failure =>
          IO.eprintln ("Error: " ++ failure.message)
          return 1
      | none =>
          CommandLine.say (.info "Document generation completed successfully")
          return 0
