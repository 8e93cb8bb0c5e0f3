/-
Module: SwaggerDocs.Generation.Warning
Purpose: The warnings about declarations, directives and files that a document does without.
Main exports: Warning, Warning.message
-/
import SwaggerDocs.Declarations.Basic

namespace SwaggerDocs

/-- What was left out or replaced, and why. -/
inductive Warning where
  /-- A function is bound to a method that documents do not know. -/
  | unsupportedMethod (method : String) (path : String)
  /-- A second schema for an identifier differs from the first, which is kept. -/
  | keptFirst (id : String)
  /-- A type has no schema. -/
  | unmappableType (type : String) (reason : String)
  /-- A field of a type without schema is left out. -/
  | unsupportedField (kind : String) (field : String)
  /-- A type is used and not declared. -/
  | missingDeclaration (type : String) (usedIn : Path)
  /-- A type would be spliced into itself. -/
  | flattensItself (type : String)
  /-- A built-in type has no counterpart and is written as a string. -/
  | asString (kind : Primitive) (field : String)
  /-- The file of an example cannot be read. -/
  | unreadableExample (file : Path)
  /-- A source file cannot be read as text. -/
  | unreadableSource (file : Path)
  /-- A source file does not parse. -/
  | unparsableSource (file : Path)
deriving Repr, DecidableEq

namespace Warning

/-- The name of a built-in type in messages. -/
def primitiveName : Primitive → String
  | .bool => "Bool"
  | .i8 => "I8"
  | .i16 => "I16"
  | .i32 => "I32"
  | .i64 => "I64"
  | .i128 => "I128"
  | .isize => "Isize"
  | .u8 => "U8"
  | .u16 => "U16"
  | .u32 => "U32"
  | .u64 => "U64"
  | .u128 => "U128"
  | .usize => "Usize"
  | .f32 => "F32"
  | .f64 => "F64"
  | .char => "Char"
  | .string => "String"

/-- The text of a warning. -/
def message : Warning → String
  | .unsupportedMethod method path =>
      "Unsupported HTTP method '" ++ method ++ "' for path " ++ path ++ ", operation dropped"
  | .keptFirst id =>
      "Schema " ++ id ++ " is already registered with a different shape, keeping the first"
  | .unmappableType type reason =>
      "Type " ++ type ++ " cannot be mapped to a schema: " ++ reason
  | .unsupportedField kind field =>
      "Unsupported type (" ++ kind ++ ") for field " ++ field ++ ", skipped"
  | .missingDeclaration type usedIn =>
      "Unable to find declaration of type " ++ type ++ " used in " ++ usedIn.text
  | .flattensItself type => "Type " ++ type ++ " flattens itself, field skipped"
  | .asString kind field =>
      "No schema type for " ++ primitiveName kind ++ " (field " ++ field ++ "), using string"
  | .unreadableExample file => "Unable to load example file " ++ file.text
  | .unreadableSource file => "Skipping " ++ file.text ++ ": IO error"
  | .unparsableSource file => "Skipping " ++ file.text ++ ": Parse error in " ++ file.text

end Warning

end SwaggerDocs
