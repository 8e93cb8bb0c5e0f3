/-
Module: SwaggerDocs.Proofs.Generation.Operations
Purpose: The schemas of bound operations. Directives only refer to definitions, so whatever holds of
  all references holds of every schema in the paths of a document.
Main exports: Operation.Every, PathItem.Every, Paths.Every, Generation.every_bindAll
-/
import SwaggerDocs.Generation.Operations
import SwaggerDocs.Proofs.Entries

namespace SwaggerDocs

variable {P : Schema → Prop}

/-- The schema of a response has a property, if there is one. -/
def Response.Every (P : Schema → Prop) (response : Response) : Prop :=
  ∀ schema, response.schema = some schema → P schema

/-- The schemas of all parameters and responses of an operation have a property. -/
structure Operation.Every (P : Schema → Prop) (operation : Operation) : Prop where
  parameters : ∀ parameter ∈ operation.parameters, ∀ schema,
    parameter.schema = some schema → P schema
  responses : ∀ entry ∈ operation.responses, entry.2.Every P

/-- The schemas of all operations of a path have a property. -/
def PathItem.Every (P : Schema → Prop) (item : PathItem) : Prop :=
  ∀ method operation, item.operation? method = some operation → operation.Every P

/-- The schemas of all operations have a property. -/
def Paths.Every (P : Schema → Prop) (paths : Paths) : Prop := ∀ entry ∈ paths, entry.2.Every P

namespace Operation

/-- Putting a parameter adds no other one. -/
theorem mem_putParameter {parameter added : Parameter} {parameters : List Parameter}
    (member : parameter ∈ putParameter added parameters) :
    parameter = added ∨ parameter ∈ parameters := by
  induction parameters with
  | nil => exact Or.inl (List.mem_singleton.1 member)
  | cons existing rest ih =>
      rw [putParameter] at member
      split at member
      · rcases List.mem_cons.1 member with new | old
        · exact Or.inl new
        · exact Or.inr (List.mem_cons_of_mem _ old)
      · rcases List.mem_cons.1 member with first | later
        · exact Or.inr (first ▸ List.mem_cons_self)
        · rcases ih later with new | old
          · exact Or.inl new
          · exact Or.inr (List.mem_cons_of_mem _ old)

/-- A change that keeps a property of responses keeps it for the operation. -/
theorem Every.updateResponse {operation : Operation} (every : operation.Every P)
    (key : ResponseKey) {change : Response → Response}
    (keeps : ∀ response : Response, response.Every P → (change response).Every P) :
    (operation.updateResponse key change).Every P where
  parameters := every.parameters
  responses := by
    have present : (operation.responseAt key).Every P := by
      rw [responseAt]
      cases found : operation.responses.find? key with
      | none => exact fun _ absent => by cases absent
      | some response => exact every.responses _ (Entries.mem_of_find? found)
    intro entry member
    rcases Entries.mem_insert member with new | old
    · rw [new]
      exact keeps _ present
    · exact every.responses entry old

/-- A property of all schemas is kept if the new parameter has it. -/
theorem Every.setParameter {operation : Operation} (every : operation.Every P)
    {parameter : Parameter} (own : ∀ schema, parameter.schema = some schema → P schema) :
    (operation.setParameter parameter).Every P where
  parameters := by
    intro other member
    rcases mem_putParameter member with new | old
    · rw [new]
      exact own
    · exact every.parameters other old
  responses := every.responses

end Operation

namespace Generation

variable (references : ∀ id, P (Schema.referTo id))
include references

/-- The directives of a function make no schemas but references. -/
theorem every_applyOperationDirective (files : ExampleFiles) (source : Path)
    (directive : OperationDirective) {operation : Operation} (every : operation.Every P) :
    (applyOperationDirective files source operation directive).Every P := by
  cases directive with
  | parameter name location typed description =>
      refine ⟨fun parameter member => ?_, every.responses⟩
      rcases List.mem_append.1 member with old | new
      · exact every.parameters parameter old
      · rw [List.mem_singleton.1 new]
        exact fun _ absent => by cases absent
  | tag name => exact ⟨every.parameters, every.responses⟩
  | response key description =>
      rw [applyOperationDirective]
      exact every.updateResponse key fun _ own => own
  | responseContent key mediaType schemaId =>
      have added : (operation.addProduces mediaType).Every P :=
        ⟨every.parameters, every.responses⟩
      rw [applyOperationDirective]
      refine added.updateResponse key fun response _ schema present => ?_
      cases present
      exact references schemaId
  | responseHeader key name typed description =>
      rw [applyOperationDirective]
      exact every.updateResponse key fun _ own => own
  | responseExample key mediaType file =>
      rw [applyOperationDirective]
      cases loadExample? files source file with
      | none => exact every
      | some payload => exact every.updateResponse key fun _ own => own
  | requestBody mediaType schemaId required description =>
      have body : ∀ schema, (Parameter.body schemaId required description).schema = some schema →
          P schema := by
        rintro schema ⟨⟩
        exact references schemaId
      have put := every.setParameter body
      exact ⟨put.parameters, put.responses⟩

/-- The operation of a function has only references as schemas. -/
theorem every_buildOperation (files : ExampleFiles) (source : Path)
    (function : FunctionDeclaration) : (buildOperation files source function).Every P := by
  have start : { Operation.named function.name with
      description := function.docs.text? }.Every P :=
    ⟨by simp [Operation.named], by simp [Operation.named]⟩
  rw [buildOperation]
  generalize operationDirectives function.docs = directives
  generalize { Operation.named function.name with
    description := function.docs.text? } = operation at start
  induction directives generalizing operation with
  | nil => exact start
  | cons directive rest ih =>
      exact ih _ (every_applyOperationDirective references files source directive start)

omit references in
/-- Binding an operation keeps what holds of all schemas, if it holds of those of the operation. -/
theorem every_bindOperation {paths : Paths} (every : paths.Every P) (binding : Binding)
    {operation : Operation} (own : operation.Every P) :
    (bindOperation paths binding operation).Every P := by
  have present : ((paths.find? binding.path).getD {}).Every P := by
    cases found : paths.find? binding.path with
    | none =>
        intro method other bound
        cases method <;> cases bound
    | some item => exact every _ (Entries.mem_of_find? found)
  intro entry member
  rcases Entries.mem_insert member with new | old
  · rw [new]
    intro method other bound
    by_cases same : method = binding.method
    · rw [same, PathItem.operation?_set_self] at bound
      cases bound
      exact own
    · rw [PathItem.operation?_set_of_ne _ same] at bound
      exact present method other bound
  · exact every entry old

/-- Binding the operation of a function keeps a property that references have. -/
theorem every_bindFunction (files : ExampleFiles) (source : Path) {paths : Paths}
    (every : paths.Every P) (function : FunctionDeclaration) :
    (bindFunction files source paths function).Every P := by
  rw [bindFunction]
  generalize bindings function.docs = bindings
  induction bindings generalizing paths with
  | nil => exact every
  | cons binding rest ih =>
      exact ih (every_bindOperation every binding
        (every_buildOperation references files source function))

/-- The functions of a file in turn keep it as well. -/
theorem every_bindFunctions (files : ExampleFiles) (source : Path)
    (functions : List FunctionDeclaration) {paths : Paths} (every : paths.Every P) :
    Paths.Every P (functions.foldl (bindFunction files source) paths) := by
  induction functions generalizing paths with
  | nil => exact every
  | cons function rest ih => exact ih (every_bindFunction references files source every function)

/-- What holds of all references holds of all schemas of bound operations. -/
theorem every_bindAll (files : ExampleFiles) (graph : Declarations) {paths : Paths}
    (every : paths.Every P) : (bindAll files graph paths).Every P := by
  rw [bindAll]
  generalize graph.files = sources
  induction sources generalizing paths with
  | nil => exact every
  | cons file rest ih =>
      exact ih (every_bindFunctions references files file.path file.functions every)

end Generation

end SwaggerDocs
