/-
Module: SwaggerDocs.Docs.Directive.Parser
Purpose: The grammar of directive lines. A line is trimmed; a directive word and its arguments are
  separated by exactly one blank each; a line that no rule accepts is prose or a malformed directive.
  A line is kept out of the prose if it has the shape of a directive, whether or not a rule accepts
  it.
Main exports: isDirectiveLine, parseSpec?, parseSchema?, parseOperation?, parseBinding
-/
import SwaggerDocs.Docs.Directive
import SwaggerDocs.Text.Scan

namespace SwaggerDocs.Directive

open Text

/-- Lower-case ASCII letters and digits. -/
def isTagChar (c : Char) : Bool := ('a' ≤ c && c ≤ 'z') || ('0' ≤ c && c ≤ '9')

/-- A directive line starts with a word of lower-case letters and digits, a colon, and another such
    character. -/
def hasDirectiveShape (cs : List Char) : Bool :=
  match run? isTagChar cs with
  | some (_, ':' :: c :: _) => isTagChar c
  | _ => false

/-- The line is a directive and not prose. -/
def isDirectiveLine (line : String) : Bool := hasDirectiveShape (trim line.toList)

/-- The arguments of a directive: what follows its word and one blank. -/
def arguments? (word : String) (cs : List Char) : Option (List Char) :=
  (stripStart? word.toList cs).bind (char? ' ')

/-- One argument of characters that are not blank, up to the end of the line. -/
def lastNonBlank? (cs : List Char) : Option String :=
  match nonBlank? cs with
  | some (run, []) => some (String.ofList run)
  | _ => none

/-- One argument of word characters, up to the end of the line. -/
def lastWord? (cs : List Char) : Option String :=
  match word? cs with
  | some (run, []) => some (String.ofList run)
  | _ => none

/-- One argument of characters that are not blank, and what follows the blank after it. -/
def nonBlankThen? (cs : List Char) : Option (String × List Char) :=
  match nonBlank? cs with
  | some (run, ' ' :: rest) => some (String.ofList run, rest)
  | _ => none

/-- One argument of word characters, and what follows the blank after it. -/
def wordThen? (cs : List Char) : Option (String × List Char) :=
  match word? cs with
  | some (run, ' ' :: rest) => some (String.ofList run, rest)
  | _ => none

/-- The description at the end of a line: none, or a text in quotes after one blank. The text is not
    empty and holds no quote. -/
def description? : List Char → Option (Option String)
  | [] => some none
  | ' ' :: '"' :: rest =>
      match run? (· != '"') rest with
      | some (text, ['"']) => some (some (String.ofList text))
      | _ => none
  | _ => none

/-- A type, perhaps with a format after a slash. -/
def typed? (cs : List Char) : Option (TypedAs × List Char) :=
  match word? cs with
  | none => none
  | some (typeName, '/' :: rest) =>
      (nonBlank? rest).map fun (format, rest) =>
        (⟨String.ofList typeName, some (String.ofList format)⟩, rest)
  | some (typeName, rest) => some (⟨String.ofList typeName, none⟩, rest)

/-- The key of a response: `default`, or three digits that are a status code. -/
def key? (cs : List Char) : Option (ResponseKey × List Char) :=
  match stripStart? "default".toList cs with
  | some rest => some (.default, rest)
  | none =>
      match cs with
      | a :: b :: c :: rest =>
          if a.isDigit && b.isDigit && c.isDigit then
            (ResponseKey.parse? (String.ofList [a, b, c])).map (·, rest)
          else none
      | _ => none

/-- The key of a response and what follows the blank after it. -/
def keyThen? (cs : List Char) : Option (ResponseKey × List Char) :=
  (key? cs).bind fun (key, rest) => (char? ' ' rest).map (key, ·)

/-- The location argument of a parameter and what follows the blank after it. -/
def locationThen? (cs : List Char) : Option (ParameterLocation × List Char) :=
  match arguments? "path" cs with
  | some rest => some (.path, rest)
  | none => (arguments? "query" cs).map (.query, ·)

/-- The flag and the description of a request body; without a flag the body is required. -/
def requirement? (cs : List Char) : Option (Bool × Option String) :=
  match stripStart? " true".toList cs, stripStart? " false".toList cs with
  | some rest, _ => (description? rest).map (true, ·)
  | none, some rest => (description? rest).map (false, ·)
  | none, none => (description? cs).map (true, ·)

/-- A text without line feeds, as an argument up to the end of the line. -/
def lineText? (cs : List Char) : Option String :=
  if cs.contains '\n' then none else some (String.ofList cs)

/-! ### The rules -/

/-- `openapi:info <version>` -/
def info? (cs : List Char) : Option SpecDirective :=
  ((arguments? "openapi:info" cs).bind lastNonBlank?).map .info

/-- `openapi:component schema <id>` -/
def component? (cs : List Char) : Option SchemaDirective :=
  ((arguments? "openapi:component schema" cs).bind lastWord?).map .component

/-- `openapi:<word> <text>` or `schema:<word> <text>` -/
def schemaText? (word : String) (cs : List Char) : Option String :=
  ((arguments? ("openapi:" ++ word) cs).or (arguments? ("schema:" ++ word) cs)).bind lineText?

/-- `openapi:parameter <name> (path|query) <type>[/<format>] ["<description>"]` -/
def parameter? (cs : List Char) : Option OperationDirective := do
  let cs ← arguments? "openapi:parameter" cs
  let (name, cs) ← wordThen? cs
  let (location, cs) ← locationThen? cs
  let (typed, cs) ← typed? cs
  let description ← description? cs
  return .parameter name location typed description

/-- `openapi:tag <name>` -/
def tag? (cs : List Char) : Option OperationDirective :=
  ((arguments? "openapi:tag" cs).bind lastWord?).map .tag

/-- `openapi:response <key> ["<description>"]` -/
def response? (cs : List Char) : Option OperationDirective := do
  let cs ← arguments? "openapi:response" cs
  let (key, cs) ← key? cs
  let description ← description? cs
  return .response key description

/-- `openapi:responseContent <key> <media type> <schema id>` -/
def responseContent? (cs : List Char) : Option OperationDirective := do
  let cs ← arguments? "openapi:responseContent" cs
  let (key, cs) ← keyThen? cs
  let (mediaType, cs) ← nonBlankThen? cs
  let schemaId ← lastWord? cs
  return .responseContent key mediaType schemaId

/-- `openapi:responseHeader <key> <name> <type>[/<format>] ["<description>"]` -/
def responseHeader? (cs : List Char) : Option OperationDirective := do
  let cs ← arguments? "openapi:responseHeader" cs
  let (key, cs) ← keyThen? cs
  let (name, cs) ← nonBlankThen? cs
  let (typed, cs) ← typed? cs
  let description ← description? cs
  return .responseHeader key name typed description

/-- `openapi:responseExample <key> <media type> <file>` -/
def responseExample? (cs : List Char) : Option OperationDirective := do
  let cs ← arguments? "openapi:responseExample" cs
  let (key, cs) ← keyThen? cs
  let (mediaType, cs) ← nonBlankThen? cs
  let file ← lastNonBlank? cs
  return .responseExample key mediaType file

/-- `openapi:requestBody <media type> <schema id> [true|false] ["<description>"]` -/
def requestBody? (cs : List Char) : Option OperationDirective := do
  let cs ← arguments? "openapi:requestBody" cs
  let (mediaType, cs) ← nonBlankThen? cs
  let (schemaId, cs) ← word? cs
  let (required, description) ← requirement? cs
  return .requestBody mediaType (String.ofList schemaId) required description

/-! ### Lines -/

/-- The first result of a list of rules. -/
def firstOf {α : Type} (rules : List (List Char → Option α)) (cs : List Char) : Option α :=
  rules.findSome? fun rule => rule cs

/-- The rules of types and fields, in the order in which they are tried. -/
def schemaRules : List (List Char → Option SchemaDirective) := [
  component?,
  fun cs => (schemaText? "example" cs).map .example,
  fun cs => (schemaText? "format" cs).map .format,
  fun cs => (schemaText? "default" cs).map .default]

/-- The rules of functions, in the order in which they are tried. -/
def operationRules : List (List Char → Option OperationDirective) := [
  parameter?, tag?, response?, responseContent?, responseHeader?, responseExample?, requestBody?]

/-- Reads the directive of a file. -/
def parseSpec? (line : String) : Option SpecDirective := info? (trim line.toList)

/-- Reads a directive of a type or field. -/
def parseSchema? (line : String) : Option SchemaDirective :=
  firstOf schemaRules (trim line.toList)

/-- Reads a directive of a function. -/
def parseOperation? (line : String) : Option OperationDirective :=
  firstOf operationRules (trim line.toList)

/-- What a line says about the place of a function: nothing, a binding, or a method that documents
    do not know. -/
inductive BindingLine where
  | none
  | bound (binding : Binding)
  | unsupported (method : String) (path : String)
deriving Repr, DecidableEq

/-- The path and method arguments of `openapi:operation <path> <method>`. -/
def bindingArguments? (cs : List Char) : Option (String × String) := do
  let cs ← arguments? "openapi:operation" cs
  let (path, cs) ← nonBlankThen? cs
  let method ← lastNonBlank? cs
  return (path, method)

/-- Reads a binding line. -/
def parseBinding (line : String) : BindingLine :=
  match bindingArguments? (trim line.toList) with
  | .none => .none
  | some (path, method) =>
      match HttpMethod.ofName? method with
      | some known => .bound ⟨path, known⟩
      | .none => .unsupported method path

/-- The binding of a line, if it has one. -/
def parseBinding? (line : String) : Option Binding :=
  match parseBinding line with
  | .bound binding => some binding
  | _ => .none

end SwaggerDocs.Directive
