/-
Module: SwaggerDocs.Generation.Generator
Purpose: The generator of schemas as it runs: its calls take a context and give it back changed. A
  type is worked out while its name is active; a use of an active type is only a reference, or is left
  out if the type would be spliced. Every call but that of a type gives the active names back as it
  found them, and carries the proof of that: the next call is measured by them.
Main exports: Returned, Generator.generate, Generator.generateEach, Generator.generateAll
-/
import SwaggerDocs.Generation.Context
import SwaggerDocs.Generation.TypeSchema

namespace SwaggerDocs

/-- The end of a call that leaves the given names active. -/
structure Returned (active : List String) (α : Type) where
  answer : α
  context : Context
  active_eq : context.active = active

namespace Generator

open Generation

/-- What a use of a type stands for, once the type is worked out. The type is registered if the use
    is a reference, and also if it is spliced and a part of it refers back to it. -/
def settle (name : String) (embedded : Bool) (made : Option Schema) (ctx : Context) :
    Resolution × Context :=
  match made with
  | none => (.skip, ctx)
  | some schema =>
      if embedded then
        (if schema.isObject then .splice schema.properties else .schema schema,
          if name ∈ ctx.cyclic then (ctx.unmark name).register name schema else ctx)
      else (.schema (Schema.referTo name), (ctx.unmark name).register name schema)

theorem active_settle (name : String) (embedded : Bool) (made : Option Schema) (ctx : Context) :
    (settle name embedded made ctx).2.active = ctx.active := by
  unfold settle
  split
  · rfl
  · split
    · dsimp only
      split <;> rfl
    · rfl

/-- The properties that a resolved use contributes. -/
def resolved (name : String) (docs : Documentation) : Resolution → Entries String Schema
  | .schema schema => single name schema docs
  | .splice properties => properties
  | .skip => []

mutual

/-- Works out a declared type while its name is active. -/
def typeSchema (graph : Declarations) (file : FileDeclarations) (decl : TypeDeclaration)
    (ctx : Context) : Returned (ctx.active.filter (· ≠ decl.name)) (Option Schema) :=
  let made := shapeSchema graph file decl (ctx.enter decl.name)
  { answer := made.answer
    context := made.context.leave decl.name
    active_eq := by
      have restored := made.active_eq
      simp only [Context.leave, restored]
      exact ctx.filter_active_enter decl.name }
termination_by (inactive graph (ctx.enter decl.name).active, 5, 0)

/-- The schema of the shape of a declared type. Its description is that of the declaration. -/
def shapeSchema (graph : Declarations) (file : FileDeclarations) (decl : TypeDeclaration)
    (ctx : Context) : Returned ctx.active (Option Schema) :=
  match decl.shape with
  | .struct fields =>
      let made := fieldProperties graph file [] fields ctx
      { answer := some { Schema.object with
          description := decl.docs.text?, properties := made.answer }
        context := made.context
        active_eq := made.active_eq }
  | .alias target =>
      let made := contribution graph file decl.name false decl.docs target ctx
      { answer := some ((onlySchema decl.name made.answer).withDescription decl.docs.text?)
        context := made.context
        active_eq := made.active_eq }
  | .enumeration names =>
      { answer := some { Schema.primitive "string" none with
          description := decl.docs.text?, enumNames := names }
        context := ctx
        active_eq := rfl }
  | .unmappable reason =>
      { answer := none
        context := ctx.warn (.unmappableType decl.name reason)
        active_eq := rfl }
termination_by (inactive graph ctx.active, 4, 0)

/-- Adds the properties of the fields of a struct to those of earlier fields. -/
def fieldProperties (graph : Declarations) (file : FileDeclarations)
    (properties : Entries String Schema) (fields : List Field) (ctx : Context) :
    Returned ctx.active (Entries String Schema) :=
  match fields with
  | [] => { answer := properties, context := ctx, active_eq := rfl }
  | field :: rest =>
      if field.contributes then
        let first := contribution graph file field.propertyName field.embedded field.docs field.type
          ctx
        let later := fieldProperties graph file (properties.extend first.answer) rest first.context
        { answer := later.answer
          context := later.context
          active_eq := later.active_eq.trans first.active_eq }
      else fieldProperties graph file properties rest ctx
termination_by (inactive graph ctx.active, 3, fields.length)
decreasing_by
  · exact Prod.Lex.right _ (Prod.Lex.left _ _ (by decide))
  · rw [first.active_eq]
    exact Prod.Lex.right _ (Prod.Lex.right _ (Nat.lt_succ_self _))
  · exact Prod.Lex.right _ (Prod.Lex.right _ (Nat.lt_succ_self _))

/-- The properties that a field of a type contributes: usually one of the field's name, those of the
    type if it is spliced, and none if the type has no schema. -/
def contribution (graph : Declarations) (file : FileDeclarations) (name : String) (embedded : Bool)
    (docs : Documentation) (type : TypeUse) (ctx : Context) :
    Returned ctx.active (Entries String Schema) :=
  match type with
  | .primitive kind =>
      { answer := single name (primitiveSchema kind) docs
        context := if lacksCounterpart kind then ctx.warn (.asString kind name) else ctx
        active_eq := by split <;> rfl }
  | .named type =>
      match wellKnownSchema? type with
      | some schema => { answer := single name schema docs, context := ctx, active_eq := rfl }
      | none =>
          let made := namedUse graph file embedded type ctx
          { answer := resolved name docs made.answer
            context := made.context
            active_eq := made.active_eq }
  | .sequence item =>
      let made := elementSchema graph file item ctx
      { answer := single name (Schema.array made.answer) docs
        context := made.context
        active_eq := made.active_eq }
  | .mapping value =>
      let made := elementSchema graph file value ctx
      { answer := single name (Schema.map made.answer) docs
        context := made.context
        active_eq := made.active_eq }
  | .indirect inner => contribution graph file name embedded docs inner ctx
  | .any => { answer := single name Schema.object docs, context := ctx, active_eq := rfl }
  | .unsupported kind =>
      { answer := [], context := ctx.warn (.unsupportedField kind name), active_eq := rfl }
termination_by (inactive graph ctx.active, 1, 2 * sizeOf type)

/-- The schema of the items of an array or of the values of a map. -/
def elementSchema (graph : Declarations) (file : FileDeclarations) (type : TypeUse)
    (ctx : Context) : Returned ctx.active Schema :=
  let made := contribution graph file itemKey false Documentation.empty type ctx
  { answer := onlySchema itemKey made.answer
    context := made.context
    active_eq := made.active_eq }
termination_by (inactive graph ctx.active, 1, 2 * sizeOf type + 1)

/-- What a use of a named type stands for. -/
def namedUse (graph : Declarations) (file : FileDeclarations) (embedded : Bool) (type : TypeName)
    (ctx : Context) : Returned ctx.active Resolution :=
  match _found : graph.findType? type.name file.path with
  | none =>
      { answer := .skip
        context := ctx.warn (.missingDeclaration type.name file.path)
        active_eq := rfl }
  | some (targetFile, target) =>
      if fresh : target.name ∈ ctx.active then
        if embedded then
          { answer := .skip, context := ctx.warn (.flattensItself target.name), active_eq := rfl }
        else
          { answer := .schema (Schema.referTo target.name)
            context := ctx.mark target.name
            active_eq := rfl }
      else
        let made := typeSchema graph targetFile target ctx
        let use := settle target.name embedded made.answer made.context
        { answer := use.1
          context := use.2
          active_eq := (active_settle _ _ _ _).trans
            (made.active_eq.trans (Context.filter_active_of_fresh fresh)) }
termination_by (inactive graph ctx.active, 0, 0)
decreasing_by
  rw [Context.active_enter_of_fresh fresh]
  exact Prod.Lex.left _ _ (inactive_target_lt _found fresh)

end

section NamedUse

variable {graph : Declarations} {file : FileDeclarations} {type : TypeName} {ctx : Context}

theorem namedUse_of_missing (embedded : Bool)
    (missing : graph.findType? type.name file.path = none) :
    namedUse graph file embedded type ctx =
      { answer := .skip
        context := ctx.warn (.missingDeclaration type.name file.path)
        active_eq := rfl } := by
  rw [namedUse]
  split
  · rfl
  · rename_i found
    rw [missing] at found
    cases found

variable {targetFile : FileDeclarations} {target : TypeDeclaration}

theorem namedUse_of_active (embedded : Bool)
    (found : graph.findType? type.name file.path = some (targetFile, target))
    (busy : target.name ∈ ctx.active) :
    namedUse graph file embedded type ctx =
      if embedded then
        { answer := .skip, context := ctx.warn (.flattensItself target.name), active_eq := rfl }
      else
        { answer := .schema (Schema.referTo target.name)
          context := ctx.mark target.name
          active_eq := rfl } := by
  rw [namedUse]
  split
  · rename_i missing
    rw [found] at missing
    cases missing
  · rename_i found'
    cases found.symm.trans found'
    rw [dif_pos busy]

theorem namedUse_of_fresh (embedded : Bool)
    (found : graph.findType? type.name file.path = some (targetFile, target))
    (fresh : target.name ∉ ctx.active) :
    let made := typeSchema graph targetFile target ctx
    let settled := settle target.name embedded made.answer made.context
    (namedUse graph file embedded type ctx).answer = settled.1 ∧
      (namedUse graph file embedded type ctx).context = settled.2 := by
  rw [namedUse]
  split
  · rename_i missing
    rw [found] at missing
    cases missing
  · rename_i found'
    cases found.symm.trans found'
    rw [dif_neg fresh]
    exact ⟨rfl, rfl⟩

end NamedUse

/-- Registers the schema of a component. References to a cyclic type use its name, which has to be
    defined besides the identifier of the component. -/
def publish (name id : String) (schema : Schema) (ctx : Context) : Context :=
  let settled :=
    if name ∈ ctx.cyclic ∧ id ≠ name then (ctx.unmark name).register name schema
    else ctx.unmark name
  settled.register id schema

/-- Works out a declared type that is a component, and registers it. -/
def generate (graph : Declarations) (file : FileDeclarations) (decl : TypeDeclaration)
    (ctx : Context) : Option Schema × Context :=
  match decl.docs.componentId? with
  | none => (none, ctx)
  | some id =>
      let made := typeSchema graph file decl ctx
      match made.answer with
      | none => (none, made.context)
      | some schema => (some schema, publish decl.name id schema made.context)

/-- Works out declared types one after another in one context. -/
def generateEach (graph : Declarations) :
    List (FileDeclarations × TypeDeclaration) → Context → List (Option Schema) × Context
  | [], ctx => ([], ctx)
  | (file, decl) :: rest, ctx =>
      let (answer, reached) := generate graph file decl ctx
      let (answers, after) := generateEach graph rest reached
      (answer :: answers, after)

/-- The context after all declared types are worked out, in the order of files and declarations. -/
def generateAll (graph : Declarations) (policy : RegistrationPolicy) : Context :=
  (generateEach graph graph.placedTypes (Context.start policy)).2

end Generator

end SwaggerDocs
