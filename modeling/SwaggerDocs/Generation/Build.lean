/-
Module: SwaggerDocs.Generation.Build
Purpose: The document of a set of declarations: the info block of the last file that has one, the
  definitions of all components, and the operations of all functions.
Main exports: Built, Built.ofDeclarations
-/
import SwaggerDocs.Generation.Generator
import SwaggerDocs.Generation.Operations
import SwaggerDocs.Swagger.Document

namespace SwaggerDocs

/-- A document and the warnings that came up while it was made. -/
structure Built where
  document : Document
  warnings : List Warning
deriving Repr

/-- The info block of the last file that has one. -/
def Declarations.info? (graph : Declarations) : Option Info :=
  (graph.files.filterMap fun file => Info.derive? file.docs).getLast?

namespace Built

/-- Makes the document of declarations. Example files are taken from `files`. -/
def ofDeclarations (policy : RegistrationPolicy) (files : Generation.ExampleFiles)
    (graph : Declarations) : Built :=
  let generated := Generator.generateAll graph policy
  { document :=
      { swagger := Document.formatVersion
        info := graph.info?
        definitions := generated.registry.schemas
        paths := Generation.bindAll files graph [] }
    warnings := generated.warnings ++ Generation.bindAllWarnings files graph }

end Built

end SwaggerDocs
