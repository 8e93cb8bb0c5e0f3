/-
Module: SwaggerDocs.Swagger.Document
Purpose: Whole documents: the info block, the definitions by identifier, and the paths.
Main exports: Document
-/
import SwaggerDocs.Swagger.Operation
import SwaggerDocs.Docs.Documentation

namespace SwaggerDocs

/-- A document. -/
structure Document where
  swagger : String
  info : Option Info := none
  definitions : Entries String Schema := []
  paths : Entries String PathItem := []
deriving Repr, Inhabited

namespace Document

/-- The version of the format that documents are written in. -/
def formatVersion : String := "2.0"

end Document

end SwaggerDocs
