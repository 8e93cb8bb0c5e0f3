/-
Module: SwaggerDocs.Generation.Operations
Purpose: The operations of functions. Each binding line of a function binds one operation, made from
  the function's other directives in their order; a later binding of a path and method replaces an
  earlier one. Example files are read from the directory of the source file.
Main exports: Paths, ExampleFiles, exampleFiles, buildOperation, bindFunction, boundCount, bindAll
-/
import SwaggerDocs.Generation.Warning
import SwaggerDocs.Json.Reading
import SwaggerDocs.Swagger.Operation
import SwaggerDocs.Text.Utf8

namespace SwaggerDocs

/-- The operations that were bound, by path. -/
abbrev Paths := Entries String PathItem

namespace Generation

/-! ### Example files -/

/-- The bytes of the files that can be read, by path. -/
abbrev ExampleFiles := Path → Option ByteArray

/-- The payload of an example file: the value of a JSON text, or else the text itself. -/
def examplePayload (bytes : ByteArray) : Json :=
  match (Text.decodeExact? bytes).bind Json.parse? with
  | some value => value
  | none => .string (Text.decodeLenient bytes)

/-- The path of an example file, which is relative to the directory of the source. -/
def examplePath (source : Path) (file : String) : Path := source.directory.join file

/-- The payload of an example file that can be read. -/
def loadExample? (files : ExampleFiles) (source : Path) (file : String) : Option Json :=
  (files (examplePath source file)).map examplePayload

/-! ### Directives -/

/-- Lets one directive change an operation. -/
def applyOperationDirective (files : ExampleFiles) (source : Path) (operation : Operation) :
    OperationDirective → Operation
  | .parameter name location typed description =>
      { operation with
        parameters := operation.parameters ++
          [Parameter.typed name location typed.typeName typed.format description] }
  | .tag name => { operation with tags := operation.tags ++ [name] }
  | .response key description =>
      operation.updateResponse key fun response =>
        { response with description := description.getD response.description }
  | .responseContent key mediaType schemaId =>
      (operation.addProduces mediaType).updateResponse key fun response =>
        { response with schema := some (Schema.referTo schemaId) }
  | .responseHeader key name typed description =>
      operation.updateResponse key fun response =>
        { response with
          headers := Entries.insert name ⟨typed.typeName, typed.format, description⟩
            response.headers }
  | .responseExample key mediaType file =>
      match loadExample? files source file with
      | none => operation
      | some payload =>
          operation.updateResponse key fun response =>
            { response with examples := Entries.insert mediaType payload response.examples }
  | .requestBody mediaType schemaId required description =>
      (operation.setParameter (Parameter.body schemaId required description)).addConsumes mediaType

/-- A directive for an example file that cannot be read gives a warning. -/
def directiveWarnings (files : ExampleFiles) (source : Path) : OperationDirective → List Warning
  | .responseExample _ _ file =>
      if (loadExample? files source file).isSome then []
      else [.unreadableExample (examplePath source file)]
  | _ => []

/-- The operation directives of a documentation block. -/
def operationDirectives (docs : Documentation) : List OperationDirective :=
  docs.lines.filterMap Directive.parseOperation?

/-- The operation of a function. -/
def buildOperation (files : ExampleFiles) (source : Path) (function : FunctionDeclaration) :
    Operation :=
  (operationDirectives function.docs).foldl (applyOperationDirective files source)
    { Operation.named function.name with description := function.docs.text? }

/-- The warnings about the operation of a function. -/
def buildWarnings (files : ExampleFiles) (source : Path) (function : FunctionDeclaration) :
    List Warning :=
  (operationDirectives function.docs).flatMap (directiveWarnings files source)

/-! ### Bindings -/

/-- Binds an operation to a path and a method. -/
def bindOperation (paths : Paths) (binding : Binding) (operation : Operation) : Paths :=
  Entries.insert binding.path
    (((paths.find? binding.path).getD {}).set binding.method operation) paths

/-- The bindings of a documentation block. -/
def bindings (docs : Documentation) : List Binding :=
  docs.lines.filterMap Directive.parseBinding?

/-- Binds the operation of a function wherever its documentation says so. -/
def bindFunction (files : ExampleFiles) (source : Path) (paths : Paths)
    (function : FunctionDeclaration) : Paths :=
  (bindings function.docs).foldl
    (fun paths binding => bindOperation paths binding (buildOperation files source function)) paths

/-- How many times the operation of a function is bound. -/
def boundCount (function : FunctionDeclaration) : Nat := (bindings function.docs).length

/-- The warnings about the bindings of a function: for each accepted one those of its operation, and
    for each unknown method one. -/
def bindWarnings (files : ExampleFiles) (source : Path) (function : FunctionDeclaration) :
    List Warning :=
  function.docs.lines.flatMap fun line =>
    match Directive.parseBinding line with
    | .none => []
    | .bound _ => buildWarnings files source function
    | .unsupported method path => [.unsupportedMethod method path]

/-- Binds the operations of all functions, in the order of files and declarations. -/
def bindAll (files : ExampleFiles) (graph : Declarations) (paths : Paths) : Paths :=
  graph.files.foldl
    (fun paths file => file.functions.foldl (bindFunction files file.path) paths) paths

/-- The warnings about all bindings. -/
def bindAllWarnings (files : ExampleFiles) (graph : Declarations) : List Warning :=
  graph.files.flatMap fun file => file.functions.flatMap (bindWarnings files file.path)

/-- The files that example directives of functions name. -/
def exampleFiles (graph : Declarations) : List Path :=
  graph.files.flatMap fun file => file.functions.flatMap fun function =>
    (operationDirectives function.docs).filterMap fun
      | .responseExample _ _ name => some (examplePath file.path name)
      | _ => none

end Generation

/-- The number of operations on all paths. -/
def Paths.operationCount (paths : Paths) : Nat :=
  paths.values.foldl (fun count item => count + item.operations.length) 0

end SwaggerDocs
