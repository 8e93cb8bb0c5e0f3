/-
Module: SwaggerDocs.Proofs.Generation.Documents
Purpose: The JSON form of a document tells it in full. A plain document whose numbers are integers of 64
  bits is read back from its text; a document that was read from any text with such numbers is plain; and
  the documents that are made of declarations are plain, whatever numbers their example files hold.
Main exports: Document.ofText_render, Document.plain_of_ofText, Built.plain_document,
  Document.json_loses_nothing
-/
import SwaggerDocs.CommandLine.Run
import SwaggerDocs.Proofs.Docs.Reading
import SwaggerDocs.Proofs.Generation.Bindings
import SwaggerDocs.Proofs.Generation.Operations
import SwaggerDocs.Proofs.Generation.Trace
import SwaggerDocs.Proofs.Json.RoundTrip
import SwaggerDocs.Proofs.Swagger.Records

namespace SwaggerDocs

open Json

/-! ### Texts of documents

To read a document is to parse its text and to decode the value. Both undo what writing did, within the
depth that texts may have. -/

namespace Document

/-- A plain document is read back from its text, if it nests no deeper than texts may. -/
theorem ofText_render {document : Document} (plain : document.Plain Number.IsWord)
    (bound : document.toJson.depth ≤ depthLimit) :
    ofText document.toJson.render = .ok document := by
  obtain ⟨numbers, made⟩ := recovers plain depthLimit bound
  rw [ofText, Reading.ofText_render numbers]
  simp only [made, if_true]

/-- A document that is read is plain and nests no deeper than texts may. -/
theorem plain_of_ofText {text : String} {document : Document} {P : Number → Prop}
    (numbers : (Reading.ofText text).1.Numbers P) (made : ofText text = .ok document) :
    document.Plain P ∧ document.toJson.depth ≤ depthLimit := by
  simp only [ofText] at made
  split at made
  · cases made
  · rename_i read
    split at made
    · cases made
      exact yields P (by decide) _ _ numbers read
    · cases made

end Document

/-! ### Documents of declarations

Schemas are plain by the invariant of all nodes, and operations by induction on their directives.
Numbers come from example files alone. -/

namespace Generation

/-- Any number. -/
abbrev AnyNumber : Number → Prop := fun _ => True

/-- The forms of generated schemas have their properties in order and texts as payloads. -/
theorem nodeInvariant_plainNode : NodeInvariant fun _ => Schema.PlainNode AnyNumber where
  mono _ plain := plain
  any _ := ⟨trivial, nofun, nofun⟩
  struct _ _ _ ordered := ⟨ordered, nofun, nofun⟩
  enumeration _ _ _ := ⟨trivial, nofun, nofun⟩
  primitive _ _ := ⟨trivial, nofun, nofun⟩
  wellKnown _ _ := ⟨trivial, nofun, nofun⟩
  array _ _ := ⟨trivial, nofun, nofun⟩
  map _ _ := ⟨trivial, nofun, nofun⟩
  reference _ := ⟨trivial, nofun, nofun⟩
  described _ plain := ⟨plain.ordered, plain.exampleValue, plain.defaultValue⟩
  directive directive plain := by
    have text {s : String} : ∀ value, some (Json.string s) = some value →
        value ≠ .null ∧ value.Plain AnyNumber := by
      rintro _ ⟨⟩
      exact ⟨Json.noConfusion, .string⟩
    cases directive with
    | component id => exact plain
    | «example» value => exact ⟨plain.ordered, text, plain.defaultValue⟩
    | format value => exact ⟨plain.ordered, plain.exampleValue, plain.defaultValue⟩
    | default value => exact ⟨plain.ordered, plain.exampleValue, text⟩

/-- A reference has neither properties nor payloads, so it is plain. -/
theorem plain_referTo (id : String) : (Schema.referTo id).Plain AnyNumber :=
  Schema.every_iff.2 ⟨⟨trivial, nofun, nofun⟩, nofun, nofun, nofun⟩

/-- The payload of an example file is the value of a text, or a text. -/
theorem plain_examplePayload (bytes : ByteArray) : (examplePayload bytes).Plain AnyNumber := by
  rw [examplePayload]
  split
  · rename_i value found
    obtain ⟨text, _, parsed⟩ := Option.bind_eq_some_iff.1 found
    rw [parse?] at parsed
    split at parsed
    · have numbers := Reading.numbers_of_forall (P := AnyNumber) (fun _ => trivial)
      exact (Reading.plain_of_value? (numbers _) parsed).1
    · cases parsed
  · exact .string

/-- A change that keeps responses plain keeps an operation plain, at a valid key. -/
theorem plain_updateResponse {operation : Operation} (plain : operation.Plain AnyNumber)
    {key : ResponseKey} (valid : key.Valid) {change : Response → Response}
    (keeps : ∀ response : Response, response.Plain AnyNumber → (change response).Plain AnyNumber) :
    (operation.updateResponse key change).Plain AnyNumber where
  parameters := plain.parameters
  ordered := Entries.ascending_insert _ _ plain.ordered
  responses := by
    have present : (operation.responseAt key).Plain AnyNumber := by
      rw [Operation.responseAt]
      cases found : operation.responses.find? key with
      | none => exact Response.plain_empty AnyNumber
      | some response => exact (plain.responses _ (Entries.mem_of_find? found)).2
    intro entry member
    rcases Entries.mem_insert member with new | old
    · rw [new]
      exact ⟨valid, keeps _ present⟩
    · exact plain.responses entry old

/-- A directive adds plain parts to a plain operation, given that its fields fit; the payload of an
    example may hold any numbers. -/
theorem plain_applyOperationDirective (files : ExampleFiles) (source : Path)
    {directive : OperationDirective} (fits : Directive.Writable.Fits directive)
    {operation : Operation} (plain : operation.Plain AnyNumber) :
    (applyOperationDirective files source operation directive).Plain AnyNumber := by
  cases directive with
  | parameter name location typed description =>
      refine ⟨fun parameter member => ?_, plain.ordered, plain.responses⟩
      rcases List.mem_append.1 member with old | new
      · exact plain.parameters parameter old
      · rw [List.mem_singleton.1 new]
        exact nofun
  | tag name => exact ⟨plain.parameters, plain.ordered, plain.responses⟩
  | response key description =>
      rw [applyOperationDirective]
      apply plain_updateResponse plain fits.1
      exact fun response own => ⟨own.schema, own.headers, own.ordered, own.examples⟩
  | responseContent key mediaType schemaId =>
      have added : (operation.addProduces mediaType).Plain AnyNumber :=
        ⟨plain.parameters, plain.ordered, plain.responses⟩
      rw [applyOperationDirective]
      apply plain_updateResponse added fits.1
      intro response own
      refine ⟨?_, own.headers, own.ordered, own.examples⟩
      rintro _ ⟨⟩
      exact plain_referTo schemaId
  | responseHeader key name typed description =>
      rw [applyOperationDirective]
      apply plain_updateResponse plain fits.1
      intro response own
      exact ⟨own.schema, Entries.ascending_insert _ _ own.headers, own.ordered, own.examples⟩
  | responseExample key mediaType file =>
      rw [applyOperationDirective]
      cases loaded : loadExample? files source file with
      | none => exact plain
      | some payload =>
          obtain ⟨bytes, _, rfl⟩ := Option.map_eq_some_iff.1 loaded
          apply plain_updateResponse plain fits.1
          intro response own
          refine ⟨own.schema, own.headers, Entries.ascending_insert _ _ own.ordered, ?_⟩
          intro entry member
          rcases Entries.mem_insert member with new | old
          · rw [new]
            exact plain_examplePayload bytes
          · exact own.examples entry old
  | requestBody mediaType schemaId required description =>
      refine ⟨fun parameter member => ?_, plain.ordered, plain.responses⟩
      rcases Operation.mem_putParameter member with new | old
      · rw [new]
        rintro _ ⟨⟩
        exact plain_referTo schemaId
      · exact plain.parameters parameter old

/-- The directives that are read can be written. -/
theorem fits_of_mem_operationDirectives {docs : Documentation} {directive : OperationDirective}
    (member : directive ∈ operationDirectives docs) : Directive.Writable.Fits directive := by
  obtain ⟨line, _, read⟩ := List.mem_filterMap.1 member
  exact (Directive.parseOperation?_eq_some_iff.1 read).1

/-- The operation of a function is plain. -/
theorem plain_buildOperation (files : ExampleFiles) (source : Path)
    (function : FunctionDeclaration) : (buildOperation files source function).Plain AnyNumber := by
  have fits : ∀ directive ∈ operationDirectives function.docs, Directive.Writable.Fits directive :=
    fun _ => fits_of_mem_operationDirectives
  have start : { Operation.named function.name with
      description := function.docs.text? }.Plain AnyNumber := ⟨nofun, trivial, nofun⟩
  rw [buildOperation]
  generalize operationDirectives function.docs = directives at fits
  generalize { Operation.named function.name with
    description := function.docs.text? } = operation at start
  induction directives generalizing operation with
  | nil => exact start
  | cons directive rest ih =>
      obtain ⟨first, later⟩ := List.forall_mem_cons.1 fits
      exact ih later _ (plain_applyOperationDirective files source first start)

end Generation

/-- The definitions of declarations stand in order and are plain. -/
theorem Generator.plain_generateAll (graph : Declarations) (policy : RegistrationPolicy) :
    let schemas := (generateAll graph policy).registry.schemas
    schemas.Ascending ∧ ∀ entry ∈ schemas, entry.2.Plain Generation.AnyNumber := by
  intro schemas
  have run : schemas = ((Registry.empty policy).registerAll
      (Generation.traceOf graph graph.placedTypes)).schemas :=
    congrArg Registry.schemas (registry_generateAll graph policy)
  constructor
  · rw [run]
    exact Registry.ascending_registerAll trivial
  · intro entry member
    rw [run] at member
    rcases Registry.mem_schemas_registerAll member with absent | registered
    · cases absent
    · obtain ⟨call, _, made⟩ := Generation.mem_traceOf.1 registered
      exact (Generation.nodeInvariant_plainNode.component_every graph call.1 call.2).2 entry made

/-- The document of declarations is plain. -/
theorem Built.plain_document (policy : RegistrationPolicy) (files : Generation.ExampleFiles)
    (graph : Declarations) :
    (Built.ofDeclarations policy files graph).document.Plain Generation.AnyNumber where
  definitionsOrdered := (Generator.plain_generateAll graph policy).1
  definitions := (Generator.plain_generateAll graph policy).2
  pathsOrdered := (Generation.tidy_bindAll files graph).ascending
  paths entry member method operation bound := by
    obtain ⟨place, _, rfl⟩ := Generation.exists_built member bound
    exact Generation.plain_buildOperation files place.1.path place.2

namespace Document

/-- The JSON form of a document loses nothing. A plain document, whose numbers are integers of 64 bits
    and whose form nests no deeper than texts may, is read back from its text. Every document that is
    read from any text with such numbers is of this kind, and so is read back from the text that it is
    written as. And documents of declarations are plain but for the numbers in their example files. -/
theorem json_loses_nothing :
    (∀ document : Document, document.Plain Number.IsWord → document.toJson.depth ≤ depthLimit →
        ofText (document.render .json) = .ok document) ∧
      (∀ (text : String) (document : Document), ofText text = .ok document →
        (Reading.ofText text).1.Numbers Number.IsWord →
          document.Plain Number.IsWord ∧ document.toJson.depth ≤ depthLimit ∧
            ofText (document.render .json) = .ok document) ∧
      ∀ (policy : RegistrationPolicy) (files : Generation.ExampleFiles) (graph : Declarations),
        (Built.ofDeclarations policy files graph).document.Plain fun _ => True := by
  refine ⟨?_, ?_, ?_⟩
  · intro document plain bound
    exact ofText_render plain bound
  · intro text document made numbers
    obtain ⟨plain, bound⟩ := plain_of_ofText numbers made
    exact ⟨plain, bound, ofText_render plain bound⟩
  · intro policy files graph
    exact Built.plain_document policy files graph

/-- A schema with a number as example. -/
def smallSchema : Schema := { Schema.object with exampleValue := some (.number (.integer (-1))) }

/-- An operation with two responses. -/
def smallOperation : Operation :=
  { Operation.named "list" with responses := [(.default, {}), (.status 404, {})] }

/-- A document with a definition and a path. -/
def small : Document :=
  { swagger := "2.0"
    definitions := [("Model", smallSchema)]
    paths := [("/models", { get := some smallOperation })] }

/-- A small document keeps to the conditions, and is read back from its text; and its text keeps to the
    conditions on texts. -/
theorem json_loses_nothing_small :
    (small.Plain Number.IsWord ∧ small.toJson.depth ≤ depthLimit ∧
        ofText (small.render .json) = .ok small) ∧
      (Reading.ofText (small.render .json)).1.Numbers Number.IsWord ∧
        small.Plain Number.IsWord ∧ small.toJson.depth ≤ depthLimit ∧
          ofText (small.render .json) = .ok small := by
  have schema : smallSchema.Plain Number.IsWord := by
    refine Schema.every_iff.2 ⟨⟨trivial, ?_, nofun⟩, nofun, nofun, nofun⟩
    rintro _ ⟨⟩
    have word : (Number.integer (-1)).IsWord := by
      change inIntegerRange (-1) = true
      decide
    exact ⟨Json.noConfusion, .number word⟩
  have empty := Response.plain_empty Number.IsWord
  have operation : smallOperation.Plain Number.IsWord := by
    refine ⟨nofun, ⟨by decide, trivial⟩, ?_⟩
    intro entry member
    rcases List.mem_cons.1 member with rfl | member
    · exact ⟨trivial, empty⟩
    · rw [List.mem_singleton.1 member]
      exact ⟨rfl, empty⟩
  have plain : small.Plain Number.IsWord := by
    refine ⟨trivial, ?_, trivial, ?_⟩
    · intro entry member
      rw [List.mem_singleton.1 member]
      exact schema
    · intro entry member method other bound
      rw [List.mem_singleton.1 member] at bound
      cases method with
      | get =>
          cases bound
          exact operation
      | _ => cases bound
  have bound : small.toJson.depth ≤ depthLimit := by decide
  have read : ofText (small.render .json) = .ok small := json_loses_nothing.1 small plain bound
  have numbers : (Reading.ofText (small.render .json)).1.Numbers Number.IsWord := by
    have form : small.toJson.Numbers Number.IsWord := (recovers plain depthLimit bound).1
    have text : small.render .json = small.toJson.render := rfl
    rw [text, Reading.ofText_render form]
    exact Reading.numbers_ofJson form
  exact ⟨⟨plain, bound, read⟩, numbers, json_loses_nothing.2.1 _ small read numbers⟩

end Document

end SwaggerDocs
