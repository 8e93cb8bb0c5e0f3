/-
Module: SwaggerDocs.Proofs.Generation.References
Purpose: No reference dangles. A reference to a type that is still being worked out is made good by the
  call that works it out; so once no call is open, every reference in a definition or an answer has a
  definition. References in paths are not checked; one to a component that has a schema has a
  definition as well.
Main exports: nodeInvariant_refersTo, Generator.refersWithin_generateEach,
  Generator.references_resolve
-/
import SwaggerDocs.Generation.Build
import SwaggerDocs.Proofs.Generation.Operations
import SwaggerDocs.Proofs.Generation.Trace

namespace SwaggerDocs

open Generation

namespace Schema

theorem RefersTo.mono {ids ids' : String → Prop} (more : ∀ id, ids id → ids' id) {schema : Schema}
    (refers : schema.RefersTo ids) : schema.RefersTo ids' := by
  intro text present
  obtain ⟨id, target, known⟩ := refers text present
  exact ⟨id, target, more id known⟩

/-- More identifiers may be known, for all parts. -/
theorem RefersWithin.mono {ids ids' : String → Prop} (more : ∀ id, ids id → ids' id)
    {schema : Schema} (refers : schema.RefersWithin ids) : schema.RefersWithin ids' :=
  Every.mono (fun _ => RefersTo.mono more) refers

/-- A schema that is no reference refers to nothing. -/
theorem refersTo_of_none {ids : String → Prop} {schema : Schema} (plain : schema.reference = none) :
    schema.RefersTo ids := by
  intro text present
  rw [plain] at present
  cases present

/-- A reference that was made for an identifier refers to it. -/
theorem refersTo_referTo {ids : String → Prop} {id : String} (known : ids id) :
    (referTo id).RefersTo ids := fun _ _ => ⟨id, referenceTarget?_referTo id, known⟩

end Schema

namespace Generation

/-- Generation refers to nothing but active or declared types, whose names it knows. -/
theorem nodeInvariant_refersTo : NodeInvariant Schema.RefersTo where
  mono more refers := refers.mono more
  any _ := Schema.refersTo_of_none rfl
  struct _ _ _ _ := Schema.refersTo_of_none rfl
  enumeration _ _ _ := Schema.refersTo_of_none rfl
  primitive _ _ := Schema.refersTo_of_none rfl
  wellKnown _ _ := Schema.refersTo_of_none rfl
  array _ _ := Schema.refersTo_of_none rfl
  map _ _ := Schema.refersTo_of_none rfl
  reference known := Schema.refersTo_referTo known
  described _ refers := refers
  directive directive refers := by cases directive <;> exact refers

/-- A reference on its own refers to what it names. -/
theorem refersWithin_referTo {ids : String → Prop} {id : String} (known : ids id) :
    (Schema.referTo id).RefersWithin ids := nodeInvariant_refersTo.every_reference known

/-- A component that has a schema registers its identifier. -/
theorem registers_componentId (graph : Declarations) (file : FileDeclarations)
    {decl : TypeDeclaration} {id : String} (declared : decl.docs.componentId? = some id)
    (mappable : decl.mappable = true) : (component graph file decl).Registers id := by
  obtain ⟨schema, value⟩ := exists_value_of_mappable graph [decl.name] file mappable
  exact ⟨schema, mem_registrations_component.2
    ⟨id, schema, declared, value, Or.inr (Or.inl rfl)⟩⟩

end Generation

namespace Generator

variable (graph : Declarations) (policy : RegistrationPolicy)
  (calls : List (FileDeclarations × TypeDeclaration))

/-- What one of the calls registers is registered after all of them. -/
theorem mem_ids_of_registers {call : FileDeclarations × TypeDeclaration} (made : call ∈ calls)
    {id : String} (registers : (component graph call.1 call.2).Registers id) :
    id ∈ (generateEach graph calls (Context.start policy)).2.registry.ids := by
  obtain ⟨schema, member⟩ := registers
  rw [Registry.mem_ids, registry_generateEach_start, Registry.contains_registerAll]
  exact Or.inr ⟨schema, mem_traceOf.2 ⟨call, made, member⟩⟩

/-- After any calls, all registered schemas and all answers refer to registered identifiers only. -/
theorem refersWithin_generateEach :
    let run := generateEach graph calls (Context.start policy)
    (∀ entry ∈ run.2.registry.schemas, entry.2.RefersWithin fun id => id ∈ run.2.registry.ids) ∧
      ∀ schema, some schema ∈ run.1 → schema.RefersWithin fun id => id ∈ run.2.registry.ids := by
  constructor
  · intro entry member
    rw [registry_generateEach_start] at member
    rcases Registry.mem_schemas_registerAll member with old | new
    · cases old
    · obtain ⟨call, made, registered⟩ := mem_traceOf.1 new
      have every := (nodeInvariant_refersTo.component_every graph call.1 call.2).2 entry registered
      exact Schema.RefersWithin.mono
        (fun id => mem_ids_of_registers graph policy calls made) every
  · intro schema answered
    rw [generateEach_eq_replay graph calls (Context.idle_start policy)] at answered
    obtain ⟨call, made, value⟩ := List.mem_map.1 answered
    have every := (nodeInvariant_refersTo.component_every graph call.1 call.2).1 schema value
    exact Schema.RefersWithin.mono
      (fun id => mem_ids_of_registers graph policy calls made) every

/-- The identifier of a declared component that has a schema is defined. -/
theorem mem_ids_of_component {decl : TypeDeclaration} (placed : decl ∈ graph.types) {id : String}
    (declared : decl.docs.componentId? = some id) (mappable : decl.mappable = true) :
    id ∈ (generateAll graph policy).registry.ids := by
  obtain ⟨file, inGraph, inFile⟩ := List.mem_flatMap.1 placed
  exact mem_ids_of_registers graph policy graph.placedTypes
    (Declarations.mem_placedTypes.2 ⟨inGraph, inFile⟩)
    (registers_componentId graph file declared mappable)

/-- After any calls on declared types, in any order and with repetitions, no reference in a registered
    schema or in an answer dangles; the run over all declared types makes such calls. In a document,
    the references of definitions resolve, and so do those of paths that name a component with a
    schema. -/
theorem references_resolve :
    (∀ calls : List (FileDeclarations × TypeDeclaration),
      let run := generateEach graph calls (Context.start policy)
      (∀ entry ∈ run.2.registry.schemas, entry.2.RefersWithin fun id => id ∈ run.2.registry.ids) ∧
        ∀ schema, some schema ∈ run.1 → schema.RefersWithin fun id => id ∈ run.2.registry.ids) ∧
      ∀ files : ExampleFiles,
        let document := (Built.ofDeclarations policy files graph).document
        (∀ entry ∈ document.definitions,
          entry.2.RefersWithin fun id => id ∈ document.definitions.keys) ∧
          Paths.Every
            (Schema.RefersWithin fun id =>
              (∃ decl ∈ graph.types, decl.docs.componentId? = some id ∧ decl.mappable = true) →
                id ∈ document.definitions.keys)
            document.paths := by
  refine ⟨refersWithin_generateEach graph policy, fun files => ⟨?_, ?_⟩⟩
  · exact (refersWithin_generateEach graph policy graph.placedTypes).1
  · refine every_bindAll (fun id => refersWithin_referTo ?_) files graph ?_
    · rintro ⟨decl, placed, declared, mappable⟩
      exact mem_ids_of_component graph policy placed declared mappable
    · intro entry absent
      cases absent

end Generator

end SwaggerDocs
