/-
Module: SwaggerDocs.Swagger.Operation
Purpose: Operations with their parameters and responses, and the operations of one path.
Main exports: Parameter, Header, Response, Operation, PathItem, Operation.setParameter,
  Operation.updateResponse, PathItem.operation?, PathItem.set, PathItem.exchange
-/
import SwaggerDocs.Swagger.Schema
import SwaggerDocs.Swagger.Vocabulary

namespace SwaggerDocs

/-- A parameter of an operation. -/
structure Parameter where
  name : String
  location : ParameterLocation
  description : Option String := none
  required : Bool
  type? : Option String := none
  format : Option String := none
  /-- The schema of a request body. -/
  schema : Option Schema := none
deriving Repr, Inhabited

namespace Parameter

/-- A parameter of a basic type. One in the path is required. -/
def typed (name : String) (location : ParameterLocation) (type : String) (format : Option String)
    (description : Option String) : Parameter :=
  { name := name
    location := location
    description := description
    required := decide (location = .path)
    type? := some type
    format := format }

/-- The parameter of a request body, which is always called `body`. -/
def body (schemaId : String) (required : Bool) (description : Option String) : Parameter :=
  { name := "body"
    location := .body
    description := description
    required := required
    schema := some (Schema.referTo schemaId) }

/-- Two parameters have one name and one location. -/
def sameSlot (a b : Parameter) : Bool := decide (a.name = b.name) && decide (a.location = b.location)

end Parameter

/-- A header of a response. -/
structure Header where
  type : String
  format : Option String := none
  description : Option String := none
deriving Repr, DecidableEq, Inhabited

/-- A response. Examples are kept by media type. -/
structure Response where
  description : String := ""
  schema : Option Schema := none
  headers : Entries String Header := []
  examples : Entries String Json := []
deriving Repr, Inhabited

/-- An operation. -/
structure Operation where
  id : String
  description : Option String := none
  tags : List String := []
  consumes : List String := []
  produces : List String := []
  parameters : List Parameter := []
  responses : Entries ResponseKey Response := []
deriving Repr, Inhabited

namespace Operation

/-- An operation with nothing but its identifier. -/
def named (id : String) : Operation := { id := id }

/-- Puts a parameter in the place of the first one of its name and location, or at the end. -/
def putParameter (parameter : Parameter) : List Parameter → List Parameter
  | [] => [parameter]
  | existing :: rest =>
      if existing.sameSlot parameter then parameter :: rest
      else existing :: putParameter parameter rest

/-- Adds a parameter, or replaces the one of its name and location. -/
def setParameter (operation : Operation) (parameter : Parameter) : Operation :=
  { operation with parameters := putParameter parameter operation.parameters }

/-- Adds an item at the end of a list that lacks it. -/
def addOnce (item : String) (list : List String) : List String :=
  if list.contains item then list else list ++ [item]

/-- Adds a media type of request bodies, once. -/
def addConsumes (operation : Operation) (mediaType : String) : Operation :=
  { operation with consumes := addOnce mediaType operation.consumes }

/-- Adds a media type of responses, once. -/
def addProduces (operation : Operation) (mediaType : String) : Operation :=
  { operation with produces := addOnce mediaType operation.produces }

/-- The response of a key; an empty one if there is none yet. -/
def responseAt (operation : Operation) (key : ResponseKey) : Response :=
  (operation.responses.find? key).getD {}

/-- Changes the response of a key, which is made empty before if there is none yet. -/
def updateResponse (operation : Operation) (key : ResponseKey) (change : Response → Response) :
    Operation :=
  { operation with
    responses := Entries.insert key (change (operation.responseAt key)) operation.responses }

/-- The first parameter that is sent in the body. -/
def bodyParameter? (operation : Operation) : Option Parameter :=
  operation.parameters.find? fun parameter => parameter.location = .body

end Operation

/-- The operations of one path, at most one for each method. -/
structure PathItem where
  get : Option Operation := none
  put : Option Operation := none
  post : Option Operation := none
  delete : Option Operation := none
  options : Option Operation := none
  head : Option Operation := none
  patch : Option Operation := none
deriving Repr, Inhabited

namespace PathItem

/-- The operation of a method. -/
def operation? (item : PathItem) : HttpMethod → Option Operation
  | .get => item.get
  | .put => item.put
  | .post => item.post
  | .delete => item.delete
  | .options => item.options
  | .head => item.head
  | .patch => item.patch

/-- Binds a method, in place of an earlier operation of it. -/
def set (item : PathItem) (method : HttpMethod) (operation : Operation) : PathItem :=
  match method with
  | .get => { item with get := some operation }
  | .put => { item with put := some operation }
  | .post => { item with post := some operation }
  | .delete => { item with delete := some operation }
  | .options => { item with options := some operation }
  | .head => { item with head := some operation }
  | .patch => { item with patch := some operation }

/-- What the slot of a method holds, and the item with something else in that slot. -/
def slot (item : PathItem) : HttpMethod → Option Operation × (Option Operation → PathItem)
  | .get => (item.get, fun held => { item with get := held })
  | .put => (item.put, fun held => { item with put := held })
  | .post => (item.post, fun held => { item with post := held })
  | .delete => (item.delete, fun held => { item with delete := held })
  | .options => (item.options, fun held => { item with options := held })
  | .head => (item.head, fun held => { item with head := held })
  | .patch => (item.patch, fun held => { item with patch := held })

/-- Binds a method, and gives back the operation that its slot held before. -/
def exchange (item : PathItem) (method : HttpMethod) (operation : Operation) :
    Option Operation × PathItem :=
  ((item.slot method).1, (item.slot method).2 (some operation))

/-- The bound operations in the order of their methods. -/
def operations (item : PathItem) : List Operation := HttpMethod.all.filterMap item.operation?

@[simp] theorem operation?_set_self (item : PathItem) (method : HttpMethod) (operation : Operation) :
    (item.set method operation).operation? method = some operation := by
  cases method <;> rfl

/-- Both ways to get at a slot agree on where it is. -/
theorem exchange_eq (item : PathItem) (method : HttpMethod) (operation : Operation) :
    item.exchange method operation = (item.operation? method, item.set method operation) := by
  cases method <;> rfl

theorem operation?_set_of_ne (item : PathItem) {method other : HttpMethod} (h : other ≠ method)
    (operation : Operation) : (item.set method operation).operation? other = item.operation? other := by
  cases method <;> cases other <;> first | rfl | exact absurd rfl h

end PathItem

end SwaggerDocs
