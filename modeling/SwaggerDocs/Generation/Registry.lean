/-
Module: SwaggerDocs.Generation.Registry
Purpose: The definitions that are gathered for a document, and the two policies for an identifier that
  is registered again with another schema.
Main exports: RegistrationPolicy, Registry, Registry.register
-/
import SwaggerDocs.Generation.Warning
import SwaggerDocs.Swagger.Schema

namespace SwaggerDocs

/-- What happens when an identifier is registered again with another schema. -/
inductive RegistrationPolicy where
  /-- The later schema replaces the earlier one. -/
  | overwrite
  /-- The first schema is kept, and the later one is reported. -/
  | firstWins
deriving Repr, DecidableEq, Inhabited

/-- The schemas that were registered, by identifier. -/
structure Registry where
  policy : RegistrationPolicy
  schemas : Entries String Schema := []
deriving Repr, Inhabited

namespace Registry

/-- A registry without schemas. -/
def empty (policy : RegistrationPolicy) : Registry := { policy := policy }

/-- The schema of an identifier. -/
def get? (registry : Registry) (id : String) : Option Schema := registry.schemas.find? id

def contains (registry : Registry) (id : String) : Bool := (registry.get? id).isSome

/-- The registered identifiers in ascending order. -/
def ids (registry : Registry) : List String := registry.schemas.keys

def isEmpty (registry : Registry) : Bool := registry.schemas.isEmpty

/-- The registry with a schema in place of any earlier one of its identifier. -/
def put (registry : Registry) (id : String) (schema : Schema) : Registry :=
  { registry with schemas := Entries.insert id schema registry.schemas }

/-- Registers a schema. A schema that is registered already changes nothing. -/
def register (registry : Registry) (id : String) (schema : Schema) : Registry × List Warning :=
  match registry.get? id with
  | none => (registry.put id schema, [])
  | some existing =>
      if existing.same schema then (registry, [])
      else
        match registry.policy with
        | .overwrite => (registry.put id schema, [])
        | .firstWins => (registry, [.keptFirst id])

end Registry

end SwaggerDocs
