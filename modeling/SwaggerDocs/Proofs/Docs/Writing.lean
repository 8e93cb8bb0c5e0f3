/-
Module: SwaggerDocs.Proofs.Docs.Writing
Purpose: How directives are written: a line is the directive word and its arguments with one blank
  between them. A directive can be written if each of its parts can stand where the line has it. This
  is said without the reader; what the reader makes of such lines is shown elsewhere.
Main exports: Directive.IsWord, Directive.IsToken, Directive.IsQuotable, Directive.IsLineText,
  Directive.Writable, Directive.Renders
-/
import SwaggerDocs.Docs.Directive.Parser
import SwaggerDocs.Proofs.Swagger.ResponseKey
import SwaggerDocs.Proofs.Text.Scan

namespace SwaggerDocs

namespace Directive

open Text

/-! ### Parts of a line

What can stand where a line has a part, and how the parts that are optional are written. -/

/-- One or more word characters. -/
def IsWord (text : String) : Prop := text ≠ "" ∧ ∀ c ∈ text.toList, isWordChar c = true

/-- One or more characters that are not blank. -/
def IsToken (text : String) : Prop := text ≠ "" ∧ ∀ c ∈ text.toList, isBlank c = false

/-- A text that can stand in quotes: it is not empty and holds no quote. -/
def IsQuotable (text : String) : Prop := text ≠ "" ∧ '"' ∉ text.toList

/-- A text that can stand at the end of a trimmed line: it has no line feed and does not end in a blank
    character. -/
def IsLineText (text : String) : Prop := '\n' ∉ text.toList ∧ EndsSolid text.toList

instance (text : String) : Decidable (IsWord text) :=
  decidable_of_iff (text ≠ "" ∧ text.toList.all isWordChar = true) (by simp [IsWord])

instance (text : String) : Decidable (IsToken text) :=
  decidable_of_iff (text ≠ "" ∧ text.toList.all (fun c => !isBlank c) = true) (by simp [IsToken])

/-- A text in quotes. -/
def quoted (text : String) : String := "\"" ++ text ++ "\""

/-- The words that a description adds to a line. -/
def describe (description : Option String) : List String := (description.map quoted).toList

/-- The words that the flag of a request body adds to a line. That a body is required need not be
    said. -/
def Flags : Bool → List String → Prop
  | true, words => words = ["true"] ∨ words = []
  | false, words => words = ["false"]

/-! ### Families of directives

A family is a type of directives. The class says which of its members can be written at all, and as
which words; that a text is a line for a member is then one definition for all families. -/

/-- How the members of a family are written. -/
class Writable (α : Type) where
  /-- The parts of a member can be written. -/
  Fits : α → Prop
  /-- The words of a line that stands for a member. -/
  Words : α → List String → Prop

/-- A text is a line that stands for a member of a family. -/
def Renders {α : Type} [Writable α] (member : α) (text : String) : Prop :=
  Writable.Fits member ∧ ∃ words, Writable.Words member words ∧ text = " ".intercalate words

end Directive

open Directive

/-- A type and its format can be written. -/
def TypedAs.Fits (typed : TypedAs) : Prop :=
  IsWord typed.typeName ∧ ∀ format ∈ typed.format, IsToken format

/-- The one word of a type, with its format after a slash. -/
def TypedAs.text (typed : TypedAs) : String :=
  match typed.format with
  | none => typed.typeName
  | some format => typed.typeName ++ "/" ++ format

instance : Writable SpecDirective where
  Fits
    | .info version => IsToken version
  Words
    | .info version, words => words = ["openapi:info", version]

instance : Writable SchemaDirective where
  Fits
    | .component id => IsWord id
    | .example text | .format text | .default text => IsLineText text
  Words
    | .component id, words => words = ["openapi:component", "schema", id]
    | .example text, words => words = ["openapi:example", text] ∨ words = ["schema:example", text]
    | .format text, words => words = ["openapi:format", text] ∨ words = ["schema:format", text]
    | .default text, words => words = ["openapi:default", text] ∨ words = ["schema:default", text]

instance : Writable OperationDirective where
  Fits
    | .parameter name location typed description =>
        IsWord name ∧ location ≠ .body ∧ typed.Fits ∧ ∀ text ∈ description, IsQuotable text
    | .tag name => IsWord name
    | .response key description => key.Valid ∧ ∀ text ∈ description, IsQuotable text
    | .responseContent key mediaType schemaId => key.Valid ∧ IsToken mediaType ∧ IsWord schemaId
    | .responseHeader key name typed description =>
        key.Valid ∧ IsToken name ∧ typed.Fits ∧ ∀ text ∈ description, IsQuotable text
    | .responseExample key mediaType file => key.Valid ∧ IsToken mediaType ∧ IsToken file
    | .requestBody mediaType schemaId _ description =>
        IsToken mediaType ∧ IsWord schemaId ∧ ∀ text ∈ description, IsQuotable text
  Words
    | .parameter name location typed description, words =>
        words = ["openapi:parameter", name, location.name, typed.text] ++ describe description
    | .tag name, words => words = ["openapi:tag", name]
    | .response key description, words =>
        words = ["openapi:response", key.display] ++ describe description
    | .responseContent key mediaType schemaId, words =>
        words = ["openapi:responseContent", key.display, mediaType, schemaId]
    | .responseHeader key name typed description, words =>
        words = ["openapi:responseHeader", key.display, name, typed.text] ++ describe description
    | .responseExample key mediaType file, words =>
        words = ["openapi:responseExample", key.display, mediaType, file]
    | .requestBody mediaType schemaId required description, words =>
        ∃ flag, Flags required flag ∧
          words = ["openapi:requestBody", mediaType, schemaId] ++ flag ++ describe description

/-- The name of a method may be written with letters of either case. -/
instance : Writable Binding where
  Fits binding := IsToken binding.path
  Words binding words :=
    ∃ method : String, method.toList.map Char.toLower = binding.method.name.toList ∧
      words = ["openapi:operation", binding.path, method]

namespace Directive

open Text

/-! ### Lines as lists of characters

Readers go through the characters of a line, so a line is also put as its first word and what each
further word adds. -/

/-- What words add to a line. -/
def spaced (words : List String) : List Char := words.flatMap fun word => ' ' :: word.toList

@[simp] theorem spaced_nil : spaced [] = [] := rfl

/-- A word adds a blank and its characters. -/
@[simp] theorem spaced_cons (word : String) (words : List String) :
    spaced (word :: words) = ' ' :: (word.toList ++ spaced words) := rfl

/-- Words add what they do one after another. -/
@[simp] theorem spaced_append (words more : List String) :
    spaced (words ++ more) = spaced words ++ spaced more := List.flatMap_append

/-- A line is its first word and what the other words add. -/
theorem toList_line (word : String) (words : List String) :
    (" ".intercalate (word :: words)).toList = word.toList ++ spaced words := by
  induction words generalizing word with
  | nil => simp [spaced]
  | cons next rest ih =>
      have joined : (" ".intercalate (word :: next :: rest)).toList =
          word.toList ++ ' ' :: (" ".intercalate (next :: rest)).toList := by simp
      rw [joined, ih, spaced_cons]

/-- A text is a line of words if its characters are. -/
theorem ofList_eq_line_iff {cs : List Char} {word : String} {words : List String} :
    String.ofList cs = " ".intercalate (word :: words) ↔ cs = word.toList ++ spaced words := by
  rw [← String.toList_inj, String.toList_ofList, toList_line]

/-- A quoted text stands between two quotes. -/
theorem toList_quoted (text : String) : (quoted text).toList = '"' :: (text.toList ++ ['"']) := by
  simp [quoted]

/-- A description adds a blank and a quoted text. -/
theorem spaced_describe_some (text : String) :
    spaced (describe (some text)) = ' ' :: '"' :: (text.toList ++ ['"']) := by
  simp [describe, toList_quoted]

/-- A description keeps its distance to the word before it. -/
theorem endsRun_spaced {p : Char → Bool} (blank : p ' ' = false) (words : List String) :
    EndsRun p (spaced words) := by
  cases words with
  | nil => exact endsRun_nil p
  | cons word words => exact endsRun_cons.2 blank

end Directive

end SwaggerDocs
