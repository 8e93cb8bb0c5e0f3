/-
Module: SwaggerDocs.Proofs.Swagger.Plain
Purpose: Documents that their JSON form tells in full. Their maps stand in order, their responses have
  valid keys, no payload of a schema is null, and the numbers in payloads have a given property.
Main exports: Document.Plain, PathItem.Plain, Operation.Plain, Response.Plain, Schema.Plain
-/
import SwaggerDocs.Proofs.Json.Values
import SwaggerDocs.Proofs.Swagger.Parts
import SwaggerDocs.Proofs.Swagger.ResponseKey
import SwaggerDocs.Swagger.Document

namespace SwaggerDocs

variable (P : Json.Number → Prop)

/-- The properties of a schema stand in order, and its own payloads are plain and not null. -/
structure Schema.PlainNode (schema : Schema) : Prop where
  ordered : Entries.Ascending schema.properties
  exampleValue : ∀ value, schema.exampleValue = some value → value ≠ .null ∧ value.Plain P
  defaultValue : ∀ value, schema.defaultValue = some value → value ≠ .null ∧ value.Plain P

/-- A schema is plain at any depth. -/
def Schema.Plain (schema : Schema) : Prop := schema.Every (Schema.PlainNode P)

/-- A plain parameter has a plain schema, if it has one. -/
def Parameter.Plain (parameter : Parameter) : Prop :=
  ∀ schema, parameter.schema = some schema → schema.Plain P

/-- The maps of a plain response stand in order, and its schema and examples are plain. An example may
    be null, since examples stand in a map. -/
structure Response.Plain (response : Response) : Prop where
  schema : ∀ schema, response.schema = some schema → schema.Plain P
  headers : response.headers.Ascending
  ordered : response.examples.Ascending
  examples : ∀ entry ∈ response.examples, entry.2.Plain P

/-- A response without anything in it is plain. -/
theorem Response.plain_empty : ({} : Response).Plain P where
  schema := by
    intro schema absent
    cases absent
  headers := trivial
  ordered := trivial
  examples := by
    intro entry absent
    cases absent

/-- The responses of a plain operation stand in order and have valid keys; all its parts are plain. -/
structure Operation.Plain (operation : Operation) : Prop where
  parameters : ∀ parameter ∈ operation.parameters, parameter.Plain P
  ordered : operation.responses.Ascending
  responses : ∀ entry ∈ operation.responses, entry.1.Valid ∧ entry.2.Plain P

/-- All operations of a plain path are plain. -/
def PathItem.Plain (item : PathItem) : Prop :=
  ∀ method operation, item.operation? method = some operation → operation.Plain P

/-- The definitions and paths of a plain document stand in order and are plain. -/
structure Document.Plain (document : Document) : Prop where
  definitionsOrdered : document.definitions.Ascending
  definitions : ∀ entry ∈ document.definitions, entry.2.Plain P
  pathsOrdered : document.paths.Ascending
  paths : ∀ entry ∈ document.paths, entry.2.Plain P

end SwaggerDocs
