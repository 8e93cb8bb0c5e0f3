/-
Module: SwaggerDocs.Swagger.Encoding
Purpose: The JSON form of documents and their parts: the members in a fixed order, and none for what
  is absent.
Main exports: Document.toJson, Schema.toJson, Operation.toJson, PathItem.toJson, Parameter.toJson,
  Response.toJson
-/
import SwaggerDocs.Swagger.Document

namespace SwaggerDocs

namespace Member

/-- A member that is present with its value. -/
def optional (name : String) (value : Option Json) : List (String × Json) :=
  match value with
  | none => []
  | some value => [(name, value)]

/-- A member with a text, if there is one. -/
def text (name : String) (value : Option String) : List (String × Json) :=
  optional name (value.map .string)

/-- A member with a list of texts, unless the list is empty. -/
def texts (name : String) (values : List String) : List (String × Json) :=
  match values with
  | [] => []
  | values => [(name, .array (values.map .string))]

/-- A member with a map, unless the map is empty. -/
def entries (name : String) (values : List (String × Json)) : List (String × Json) :=
  match values with
  | [] => []
  | values => [(name, .object values)]

end Member

/-- A map with its values written as JSON. -/
def Entries.encode {α : Type} (toJson : α → Json) (values : Entries String α) :
    List (String × Json) :=
  values.map fun (key, value) => (key, toJson value)

namespace Schema

mutual

/-- The JSON form of a schema. -/
def toJson : Schema → Json
  | ⟨type, format, description, properties, items, additional, reference, names, ex, deflt⟩ =>
      .object (
        Member.text "type" type ++ Member.text "format" format ++
        Member.text "description" description ++
        Member.entries "properties" (propertiesJson properties) ++
        Member.optional "items" (optionalJson items) ++
        Member.optional "additionalProperties" (optionalJson additional) ++
        Member.text "$ref" reference ++ Member.texts "enum" names ++
        Member.optional "example" ex ++ Member.optional "default" deflt)

/-- The JSON forms of properties. -/
def propertiesJson : List (String × Schema) → List (String × Json)
  | [] => []
  | (name, schema) :: rest => (name, toJson schema) :: propertiesJson rest

/-- The JSON form of a schema that may be absent. -/
def optionalJson : Option Schema → Option Json
  | none => none
  | some schema => some (toJson schema)

end

end Schema

/-- The JSON form of a parameter. -/
def Parameter.toJson (parameter : Parameter) : Json :=
  .object (
    [("name", .string parameter.name), ("in", .string parameter.location.name)] ++
    Member.text "description" parameter.description ++
    [("required", .bool parameter.required)] ++
    Member.text "type" parameter.type? ++ Member.text "format" parameter.format ++
    Member.optional "schema" (parameter.schema.map Schema.toJson))

/-- The JSON form of a header. -/
def Header.toJson (header : Header) : Json :=
  .object (
    [("type", .string header.type)] ++ Member.text "format" header.format ++
    Member.text "description" header.description)

/-- The JSON form of a response, which always has a description. -/
def Response.toJson (response : Response) : Json :=
  .object (
    [("description", .string response.description)] ++
    Member.optional "schema" (response.schema.map Schema.toJson) ++
    Member.entries "headers" (response.headers.encode Header.toJson) ++
    Member.entries "examples" response.examples)

/-- The JSON form of an operation, which always has responses. -/
def Operation.toJson (operation : Operation) : Json :=
  .object (
    [("operationId", .string operation.id)] ++
    Member.text "description" operation.description ++
    Member.texts "tags" operation.tags ++ Member.texts "consumes" operation.consumes ++
    Member.texts "produces" operation.produces ++
    (match operation.parameters with
      | [] => []
      | parameters => [("parameters", .array (parameters.map Parameter.toJson))]) ++
    [("responses", .object (operation.responses.map fun (key, response) =>
      (key.display, response.toJson)))])

/-- The JSON form of the operations of a path. -/
def PathItem.toJson (item : PathItem) : Json :=
  .object (HttpMethod.all.flatMap fun method =>
    Member.optional method.name ((item.operation? method).map Operation.toJson))

/-- The JSON form of an info block. -/
def Info.toJson (info : Info) : Json :=
  .object (
    [("title", .string info.title)] ++ Member.text "description" info.description ++
    [("version", .string info.version)])

/-- The JSON form of a document, which always has definitions and paths. -/
def Document.toJson (document : Document) : Json :=
  .object (
    [("swagger", .string document.swagger)] ++
    Member.optional "info" (document.info.map Info.toJson) ++
    [("definitions", .object (document.definitions.encode Schema.toJson)),
      ("paths", .object (document.paths.encode PathItem.toJson))])

end SwaggerDocs
