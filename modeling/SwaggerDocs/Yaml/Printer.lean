/-
Module: SwaggerDocs.Yaml.Printer
Purpose: The written form of JSON values as YAML: block collections, two blanks for each level, and
  no indentation for the items of a list that is the value of a simple key.
Main exports: Yaml.render
-/
import SwaggerDocs.Yaml.Scalar

namespace SwaggerDocs.Yaml

open Json (Number)

/-- A number; a positive exponent carries no sign. -/
def number : Number → String
  | .integer n => toString n
  | .double x => x.render ⟨false⟩

/-- The beginning of a line at an indentation. -/
def indentation (n : Nat) : String := String.ofList (List.replicate n ' ')

/-- The end of a line, unless the text ends with one already. -/
def endLine (text : String) : String :=
  match text.toList.getLast? with
  | some c => if Scalar.isBreak c then text else text ++ "\n"
  | none => "\n"

mutual

/-- The lines of a collection, the first without its indentation. A scalar is one line, or more with
    further indentation. -/
def block (indent : Nat) : Json → String
  | .array (item :: rest) => "- " ++ block (indent + 2) item ++ itemLines indent rest
  | .object ((name, value) :: rest) => member indent name value ++ memberLines indent rest
  | .array [] => "[]\n"
  | .object [] => "\x7b\x7d\n"
  | .null => "null\n"
  | .bool true => "true\n"
  | .bool false => "false\n"
  | .number n => number n ++ "\n"
  | .string s => endLine (Scalar.render indent s)

/-- The items after the first one. -/
def itemLines (indent : Nat) : List Json → String
  | [] => ""
  | item :: rest => indentation indent ++ "- " ++ block (indent + 2) item ++ itemLines indent rest

/-- A member, without the indentation of its first line. A key that cannot stand on one line with its
    value has a question mark, and its value stands after a colon on a line of its own. -/
def member (indent : Nat) (name : String) (value : Json) : String :=
  if Scalar.isSimpleKey name then
    Scalar.render (indent + 2) name ++ ":" ++
      match value with
      | .array (item :: rest) => "\n" ++ indentation indent ++ block indent (.array (item :: rest))
      | .object (first :: rest) =>
          "\n" ++ indentation (indent + 2) ++ block (indent + 2) (.object (first :: rest))
      | value => " " ++ block (indent + 2) value
  else
    "? " ++ endLine (Scalar.render (indent + 2) name) ++ indentation indent ++ ": " ++
      block (indent + 2) value

/-- The members after the first one. -/
def memberLines (indent : Nat) : List (String × Json) → String
  | [] => ""
  | (name, value) :: rest =>
      indentation indent ++ member indent name value ++ memberLines indent rest

end

/-- The text of a value. -/
def render (value : Json) : String := block 0 value

end SwaggerDocs.Yaml
