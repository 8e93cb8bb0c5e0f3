/-
Module: SwaggerDocs.Swagger.Schema
Purpose: Schemas of a document: the types of values, by keyword. A reference names a definition of the
  same document.
Main exports: Schema, Schema.isObject, Schema.referenceTarget?, Schema.same
-/
import SwaggerDocs.Json.Basic
import SwaggerDocs.Entries
import SwaggerDocs.Text.Lines

namespace SwaggerDocs

/-- A schema: the keywords that are present. A keyword with a list or a map is absent if that is
    empty. -/
structure Schema where
  type? : Option String := none
  format : Option String := none
  description : Option String := none
  properties : List (String × Schema) := []
  /-- The schema of the items of an array. -/
  items : Option Schema := none
  /-- The schema of the values of a map. -/
  additionalProperties : Option Schema := none
  /-- The text of a reference. -/
  reference : Option String := none
  enumNames : List String := []
  exampleValue : Option Json := none
  defaultValue : Option Json := none
deriving Repr, Inhabited

namespace Schema

/-- The schema without keywords, which any value meets. -/
def any : Schema := {}

/-- An object; as long as it has no properties, any object meets it. -/
def object : Schema := { type? := some "object" }

/-- A value of a basic type. -/
def primitive (type : String) (format : Option String) : Schema :=
  { type? := some type, format := format }

/-- An array of items. -/
def array (items : Schema) : Schema := { type? := some "array", items := some items }

/-- An object with values of one schema under any names. -/
def map (values : Schema) : Schema :=
  { type? := some "object", additionalProperties := some values }

/-- What stands before the identifier of a definition in the text of a reference. -/
def referenceStart : String := "#/definitions/"

/-- A reference to the definition of an identifier. -/
def referTo (id : String) : Schema := { reference := some (referenceStart ++ id) }

/-- The schema with another description. -/
def withDescription (schema : Schema) (description : Option String) : Schema :=
  { schema with description := description }

/-- A plain object: one whose properties can be spliced into another object. -/
def isObject (schema : Schema) : Bool :=
  decide (schema.type? = some "object") && schema.additionalProperties.isNone &&
    schema.reference.isNone

/-- The identifier of the definition that a schema refers to. -/
def referenceTarget? (schema : Schema) : Option String :=
  schema.reference.bind fun text =>
    (Text.stripStart? referenceStart.toList text.toList).map String.ofList

/-- Two optional payloads are the same up to the sign of a zero. -/
def samePayload : Option Json → Option Json → Bool
  | none, none => true
  | some a, some b => a.same b
  | _, _ => false

mutual

/-- Two schemas have the same keywords with the same values. -/
def same : Schema → Schema → Bool
  | ⟨type, format, description, properties, items, additional, reference, names, ex, deflt⟩,
    ⟨type', format', description', properties', items', additional', reference', names', ex',
      deflt'⟩ =>
      decide (type = type') && decide (format = format') && decide (description = description') &&
        sameProperties properties properties' && sameOptional items items' &&
        sameOptional additional additional' && decide (reference = reference') &&
        decide (names = names') && samePayload ex ex' && samePayload deflt deflt'

/-- `same` on properties, whose names have to agree. -/
def sameProperties : List (String × Schema) → List (String × Schema) → Bool
  | [], [] => true
  | (k, a) :: as, (l, b) :: bs => decide (k = l) && same a b && sameProperties as bs
  | _, _ => false

/-- `same` on schemas that may be absent. -/
def sameOptional : Option Schema → Option Schema → Bool
  | none, none => true
  | some a, some b => same a b
  | _, _ => false

end

end Schema

end SwaggerDocs
