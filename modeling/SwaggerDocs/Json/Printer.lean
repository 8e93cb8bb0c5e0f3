/-
Module: SwaggerDocs.Json.Printer
Purpose: The written form of JSON values: members and items on lines of their own, indented by two
  blanks for each level.
Main exports: Json.render
-/
import SwaggerDocs.Json.Basic

namespace SwaggerDocs.Json

/-- A lower-case hexadecimal digit. -/
def hexChar (n : Nat) : Char := Nat.digitChar n

/-- A character inside a string. Quotes, backslashes and control characters are escaped. -/
def escapeChar (c : Char) : List Char :=
  if c = '"' then ['\\', '"']
  else if c = '\\' then ['\\', '\\']
  else if c = '\x08' then ['\\', 'b']
  else if c = '\x0c' then ['\\', 'f']
  else if c = '\n' then ['\\', 'n']
  else if c = '\r' then ['\\', 'r']
  else if c = '\t' then ['\\', 't']
  else if c.toNat < 0x20 then
    ['\\', 'u', '0', '0', hexChar (c.toNat / 16), hexChar (c.toNat % 16)]
  else [c]

/-- A string in quotes. -/
def quote (s : String) : String := String.ofList ('"' :: s.toList.flatMap escapeChar ++ ['"'])

/-- A number; a positive exponent carries a plus sign. -/
def Number.render : Number → String
  | .integer n => toString n
  | .double x => x.render ⟨true⟩

/-- The line end and indentation of a level. -/
def newline (level : Nat) : String := "\n" ++ String.ofList (List.replicate (2 * level) ' ')

mutual

/-- The text of a value whose first line stands at a level. -/
def renderAt (level : Nat) : Json → String
  | .null => "null"
  | .bool true => "true"
  | .bool false => "false"
  | .number n => n.render
  | .string s => quote s
  | .array [] => "[]"
  | .array (item :: rest) =>
      "[" ++ newline (level + 1) ++ renderAt (level + 1) item ++ renderItems (level + 1) rest ++
        newline level ++ "]"
  | .object [] => "\x7b\x7d"
  | .object ((name, value) :: rest) =>
      "\x7b" ++ newline (level + 1) ++ quote name ++ ": " ++ renderAt (level + 1) value ++
        renderMembers (level + 1) rest ++ newline level ++ "\x7d"

/-- The items after the first one. -/
def renderItems (level : Nat) : List Json → String
  | [] => ""
  | item :: rest => "," ++ newline level ++ renderAt level item ++ renderItems level rest

/-- The members after the first one. -/
def renderMembers (level : Nat) : List (String × Json) → String
  | [] => ""
  | (name, value) :: rest =>
      "," ++ newline level ++ quote name ++ ": " ++ renderAt level value ++ renderMembers level rest

end

/-- The text of a value. -/
def render (value : Json) : String := renderAt 0 value

end SwaggerDocs.Json
