/-
Module: SwaggerDocs.Docs.Directive
Purpose: Directives: the lines of a documentation block that shape the document instead of its
  prose. There are three families, for files, for types and fields, and for functions; a binding
  gives a function its place in the document.
Main exports: SpecDirective, SchemaDirective, OperationDirective, TypedAs, Binding
-/
import SwaggerDocs.Swagger.Vocabulary

namespace SwaggerDocs

/-- The directive of a file. -/
inductive SpecDirective where
  | info (version : String)
deriving Repr, DecidableEq

/-- The directives of types and fields. -/
inductive SchemaDirective where
  | component (id : String)
  | example (text : String)
  | format (text : String)
  | default (text : String)
deriving Repr, DecidableEq

/-- A type and perhaps its format, written `type` or `type/format`. -/
structure TypedAs where
  typeName : String
  format : Option String
deriving Repr, DecidableEq

/-- The directives of functions. -/
inductive OperationDirective where
  | parameter (name : String) (location : ParameterLocation) (typed : TypedAs)
      (description : Option String)
  | tag (name : String)
  | response (key : ResponseKey) (description : Option String)
  | responseContent (key : ResponseKey) (mediaType : String) (schemaId : String)
  | responseHeader (key : ResponseKey) (name : String) (typed : TypedAs)
      (description : Option String)
  | responseExample (key : ResponseKey) (mediaType : String) (file : String)
  | requestBody (mediaType : String) (schemaId : String) (required : Bool)
      (description : Option String)
deriving Repr, DecidableEq

/-- The path and method that a function is bound to. -/
structure Binding where
  path : String
  method : HttpMethod
deriving Repr, DecidableEq

end SwaggerDocs
