/-
Module: SwaggerDocs.Proofs.Generation.Outcome
Purpose: What working out a declaration comes to, read off the declarations and the active names alone:
  its value, the names that were referred to while active, and the registrations and warnings in
  order. They can be replayed into a registry of either policy. The generator carries a registry, its
  warnings and the cyclic names along instead; that it does the same is shown elsewhere.
Main exports: Event, Registry.replay, Outcome, Generation.shapeSchema, Generation.typeSchema,
  Generation.component
-/
import SwaggerDocs.Generation.Registry
import SwaggerDocs.Generation.TypeSchema

namespace SwaggerDocs

/-- One step of a generation run that others can see. -/
inductive Event where
  | register (id : String) (schema : Schema)
  | warn (warning : Warning)
deriving Repr

namespace Registry

/-- Takes one step of a run. -/
def step (registry : Registry) : Event → Registry × List Warning
  | .register id schema => registry.register id schema
  | .warn warning => (registry, [warning])

/-- Takes the steps of a run in order and gathers the warnings. -/
def replay (registry : Registry) : List Event → Registry × List Warning
  | [] => (registry, [])
  | event :: rest =>
      let (registry, warnings) := registry.step event
      let (registry, later) := registry.replay rest
      (registry, warnings ++ later)

end Registry

namespace Generation

/-- The result of a run. -/
structure Outcome (α : Type) where
  value : α
  /-- The types that were referred to while they were active. -/
  cyclic : List String := []
  /-- The registrations and warnings in order. -/
  events : List Event := []
deriving Repr

/-- What a type contributes to the type that uses it, once its own schema is worked out. A reference
    to it needs a definition; so does a type that is spliced, if a part of it refers back to it. -/
def useOf (name : String) (embedded : Bool) (schema : Option Schema) (cyclic : List String) :
    Resolution × List Event :=
  match schema with
  | none => (.skip, [])
  | some schema =>
      if embedded then
        (if schema.isObject then .splice schema.properties else .schema schema,
          if cyclic.contains name then [.register name schema] else [])
      else (.schema (Schema.referTo name), [.register name schema])

mutual

/-- The schema of the shape of a declared type, whose name is among the active ones. Its description
    is that of the declaration. -/
def shapeSchema (graph : Declarations) (active : List String) (file : FileDeclarations)
    (decl : TypeDeclaration) : Outcome (Option Schema) :=
  match decl.shape with
  | .struct fields =>
      let made := fieldProperties graph active file [] fields
      { made with
        value := some { Schema.object with
          description := decl.docs.text?, properties := made.value } }
  | .alias target =>
      let made := contribution graph active file decl.name false decl.docs target
      { made with
        value := some ((onlySchema decl.name made.value).withDescription decl.docs.text?) }
  | .enumeration names =>
      { value := some { Schema.primitive "string" none with
          description := decl.docs.text?, enumNames := names } }
  | .unmappable reason =>
      { value := none, events := [.warn (.unmappableType decl.name reason)] }
termination_by (inactive graph active, 3, 0)

/-- The properties of the fields of a struct, on top of those of earlier fields. A later property wins
    over an earlier one of its name. -/
def fieldProperties (graph : Declarations) (active : List String) (file : FileDeclarations)
    (properties : Entries String Schema) : List Field → Outcome (Entries String Schema)
  | [] => { value := properties }
  | field :: rest =>
      if field.contributes then
        let first := contribution graph active file field.propertyName field.embedded field.docs
          field.type
        let later := fieldProperties graph active file (properties.extend first.value) rest
        { value := later.value
          cyclic := first.cyclic ++ later.cyclic
          events := first.events ++ later.events }
      else fieldProperties graph active file properties rest
termination_by fields => (inactive graph active, 2, fields.length)

/-- The properties that a field of a type contributes: usually one of the field's name, those of the
    type if it is spliced, and none if the type has no schema. -/
def contribution (graph : Declarations) (active : List String) (file : FileDeclarations)
    (name : String) (embedded : Bool) (docs : Documentation) :
    TypeUse → Outcome (Entries String Schema)
  | .primitive kind =>
      { value := single name (primitiveSchema kind) docs
        events := if lacksCounterpart kind then [.warn (.asString kind name)] else [] }
  | .named type =>
      match wellKnownSchema? type with
      | some schema => { value := single name schema docs }
      | none =>
          let made := namedUse graph active file embedded type
          { made with
            value :=
              match made.value with
              | .schema schema => single name schema docs
              | .splice properties => properties
              | .skip => [] }
  | .sequence item =>
      let made := contribution graph active file itemKey false Documentation.empty item
      { made with value := single name (Schema.array (onlySchema itemKey made.value)) docs }
  | .mapping value =>
      let made := contribution graph active file itemKey false Documentation.empty value
      { made with value := single name (Schema.map (onlySchema itemKey made.value)) docs }
  | .indirect inner => contribution graph active file name embedded docs inner
  | .any => { value := single name Schema.object docs }
  | .unsupported kind => { value := [], events := [.warn (.unsupportedField kind name)] }
termination_by type => (inactive graph active, 1, sizeOf type)

/-- What a use of a named type stands for. -/
def namedUse (graph : Declarations) (active : List String) (file : FileDeclarations)
    (embedded : Bool) (type : TypeName) : Outcome Resolution :=
  match _found : graph.findType? type.name file.path with
  | none => { value := .skip, events := [.warn (.missingDeclaration type.name file.path)] }
  | some (targetFile, target) =>
      if _fresh : target.name ∈ active then
        if embedded then { value := .skip, events := [.warn (.flattensItself target.name)] }
        else { value := .schema (Schema.referTo target.name), cyclic := [target.name] }
      else
        let made := shapeSchema graph (target.name :: active) targetFile target
        let use := useOf target.name embedded made.value made.cyclic
        { value := use.1
          cyclic := made.cyclic.filter (· ≠ target.name)
          events := made.events ++ use.2 }
termination_by (inactive graph active, 0, 0)
decreasing_by
  exact Prod.Lex.left _ _ (inactive_target_lt _found _fresh)

end

/-- The schema of a declared type, outside of any other. -/
def typeSchema (graph : Declarations) (file : FileDeclarations) (decl : TypeDeclaration) :
    Outcome (Option Schema) := shapeSchema graph [decl.name] file decl

/-- The registrations of a component. References to a cyclic type use its name, which has to be
    defined besides the identifier of the component. -/
def registrations (name id : String) (schema : Schema) (cyclic : List String) : List Event :=
  (if cyclic.contains name && id ≠ name then [.register name schema] else []) ++
    [.register id schema]

/-- Works out a declared type that is a component, and registers it. -/
def component (graph : Declarations) (file : FileDeclarations) (decl : TypeDeclaration) :
    Outcome (Option Schema) :=
  match decl.docs.componentId? with
  | none => { value := none }
  | some id =>
      let made := typeSchema graph file decl
      match made.value with
      | none => made
      | some schema =>
          { value := some schema
            cyclic := made.cyclic.filter (· ≠ decl.name)
            events := made.events ++ registrations decl.name id schema made.cyclic }

end Generation

end SwaggerDocs
