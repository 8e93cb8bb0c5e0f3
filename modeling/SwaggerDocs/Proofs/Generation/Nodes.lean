/-
Module: SwaggerDocs.Proofs.Generation.Nodes
Purpose: Properties of single schemas that all schemas of a run have at any depth. Generation builds
  schemas from few forms and edits only their descriptions and payloads; what these forms have and the
  edits keep, every schema that is returned or registered has in all its parts. Such a property may
  speak of the identifiers that can be referred to: those that the run registers, and the active names
  that it leaves to the calls around it.
Main exports: NodeInvariant, Outcome.Known, shapeSchema_every, component_every
-/
import SwaggerDocs.Proofs.Entries
import SwaggerDocs.Proofs.Generation.Uses
import SwaggerDocs.Proofs.Swagger.Parts

namespace SwaggerDocs

namespace Generation

/-- A property of single schemas that all forms of generated schemas have and all edits keep, given
    the identifiers that may be referred to. -/
structure NodeInvariant (P : (String → Prop) → Schema → Prop) : Prop where
  mono {ids ids' : String → Prop} {schema : Schema} (more : ∀ id, ids id → ids' id) :
    P ids schema → P ids' schema
  any (ids) : P ids Schema.any
  struct (ids) (description : Option String) (properties : Entries String Schema)
    (ordered : properties.Ascending) :
    P ids { Schema.object with description := description, properties := properties }
  enumeration (ids) (description : Option String) (names : List String) :
    P ids { Schema.primitive "string" none with description := description, enumNames := names }
  primitive (ids) (kind : Primitive) : P ids (primitiveSchema kind)
  wellKnown (ids) (format : String) : P ids (Schema.primitive "string" (some format))
  array (ids) (items : Schema) : P ids (Schema.array items)
  map (ids) (values : Schema) : P ids (Schema.map values)
  reference {ids : String → Prop} {id : String} (known : ids id) : P ids (Schema.referTo id)
  described {ids : String → Prop} {schema : Schema} (description : Option String) :
    P ids schema → P ids (schema.withDescription description)
  directive {ids : String → Prop} {schema : Schema} (directive : SchemaDirective) :
    P ids schema → P ids (applyDirective schema directive)

/-- What a use stands for consists of schemas that have a property in all parts. -/
def Resolution.Every (P : Schema → Prop) : Resolution → Prop
  | .schema made => made.Every P
  | .splice properties => ∀ entry ∈ properties, entry.2.Every P
  | .skip => True

/-- The identifiers that a run may refer to. -/
def Outcome.Known {α : Type} (outcome : Outcome α) (id : String) : Prop :=
  id ∈ outcome.cyclic ∨ ∃ schema, (id, schema) ∈ outcome.registrations

/-- The properties of fields stand in order. -/
theorem ascending_fieldProperties (graph : Declarations) (active : List String)
    (file : FileDeclarations) (fields : List Field) {properties : Entries String Schema}
    (ordered : properties.Ascending) :
    Entries.Ascending (fieldProperties graph active file properties fields).value := by
  induction fields generalizing properties with
  | nil =>
      rw [fieldProperties]
      exact ordered
  | cons field rest ih =>
      rw [fieldProperties]
      split
      · exact ih (Entries.ascending_extend _ ordered)
      · exact ih ordered

namespace NodeInvariant

variable {P : (String → Prop) → Schema → Prop} (invariant : NodeInvariant P) {ids : String → Prop}
include invariant

/-- The empty schema has no parts besides itself. -/
theorem every_any : Schema.any.Every (P ids) :=
  Schema.every_iff.2 ⟨invariant.any ids, by simp [Schema.any], by simp [Schema.any],
    by simp [Schema.any]⟩

/-- A struct has an invariant in all parts if its properties do. -/
theorem every_struct (description : Option String) {properties : Entries String Schema}
    (ordered : properties.Ascending) (every : ∀ entry ∈ properties, entry.2.Every (P ids)) :
    { Schema.object with description := description, properties := properties }.Every (P ids) :=
  Schema.every_iff.2 ⟨invariant.struct ids description properties ordered, every,
    by simp [Schema.object], by simp [Schema.object]⟩

/-- An object without properties has no parts besides itself. -/
theorem every_object : Schema.object.Every (P ids) :=
  invariant.every_struct none trivial (by simp)

theorem every_enumeration (description : Option String) (names : List String) :
    { Schema.primitive "string" none with
      description := description, enumNames := names }.Every (P ids) :=
  Schema.every_iff.2 ⟨invariant.enumeration ids description names, by simp [Schema.primitive],
    by simp [Schema.primitive], by simp [Schema.primitive]⟩

theorem every_primitive (kind : Primitive) : (primitiveSchema kind).Every (P ids) :=
  Schema.every_iff.2 ⟨invariant.primitive ids kind, by simp [primitiveSchema, Schema.primitive],
    by simp [primitiveSchema, Schema.primitive], by simp [primitiveSchema, Schema.primitive]⟩

/-- A well-known type has no parts besides itself: it is a text with a format. -/
theorem every_wellKnown {type : TypeName} {schema : Schema}
    (known : wellKnownSchema? type = some schema) : schema.Every (P ids) := by
  rw [wellKnownSchema?] at known
  split at known
  · obtain ⟨format, _, rfl⟩ := Option.map_eq_some_iff.1 known
    exact Schema.every_iff.2 ⟨invariant.wellKnown ids format, by simp [Schema.primitive],
      by simp [Schema.primitive], by simp [Schema.primitive]⟩
  · cases known

/-- The parts of an array are itself and those of its items. -/
theorem every_array {items : Schema} (every : items.Every (P ids)) :
    (Schema.array items).Every (P ids) := by
  refine Schema.every_iff.2 ⟨invariant.array ids items, by simp [Schema.array], ?_,
    by simp [Schema.array]⟩
  rintro inner ⟨⟩
  exact every

/-- The parts of a map are itself and those of its values. -/
theorem every_map {values : Schema} (every : values.Every (P ids)) :
    (Schema.map values).Every (P ids) := by
  refine Schema.every_iff.2 ⟨invariant.map ids values, by simp [Schema.map], by simp [Schema.map],
    ?_⟩
  rintro inner ⟨⟩
  exact every

/-- A reference needs an identifier that is known. -/
theorem every_reference {id : String} (known : ids id) : (Schema.referTo id).Every (P ids) :=
  Schema.every_iff.2 ⟨invariant.reference known, by simp [Schema.referTo],
    by simp [Schema.referTo], by simp [Schema.referTo]⟩

/-- Another description leaves the inner parts as they are. -/
theorem every_described {schema : Schema} (description : Option String)
    (every : schema.Every (P ids)) : (schema.withDescription description).Every (P ids) :=
  every.congr (invariant.described description every.self) rfl rfl rfl

/-- A documentation block keeps the invariant in all parts: each of its directives edits the schema
    itself. -/
theorem every_applyDocs {schema : Schema} (docs : Documentation) (every : schema.Every (P ids)) :
    (applyDocs schema docs).Every (P ids) := by
  unfold applyDocs
  generalize docs.lines.filterMap Directive.parseSchema? = directives
  have start := invariant.every_described docs.text? every
  generalize schema.withDescription docs.text? = described at start
  induction directives generalizing described with
  | nil => exact start
  | cons directive rest ih =>
      refine ih _ (start.congr (invariant.directive directive start.self) ?_ ?_ ?_) <;>
        cases directive <;> rfl

/-- The one property that a field of a leaf type contributes. -/
theorem every_single {name : String} {schema : Schema} (docs : Documentation)
    (every : schema.Every (P ids)) : ∀ entry ∈ single name schema docs, entry.2.Every (P ids) := by
  intro entry member
  rw [List.mem_singleton.1 member]
  exact invariant.every_applyDocs docs every

/-- The schema that is read off the properties of an item is one of them, or empty. -/
theorem every_onlySchema (name : String) {properties : Entries String Schema}
    (every : ∀ entry ∈ properties, entry.2.Every (P ids)) :
    (onlySchema name properties).Every (P ids) := by
  unfold onlySchema
  cases found : properties.find? name with
  | none => exact invariant.every_any
  | some schema => exact every _ (Entries.mem_of_find? found)

/-! ### Calls

The forms are put together as the calls do it. What is left open are the uses of named types; the
theorems after this section close them by induction. -/

section Calls

variable {graph : Declarations} {active : List String} {file : FileDeclarations}

/-- What a field contributes has an invariant in all parts if what its uses stand for does. -/
theorem contribution_every (type : TypeUse) (name : String) (embedded : Bool)
    (docs : Documentation)
    (uses : ∀ use ∈ type.use? embedded,
      Resolution.Every (P ids) (useOutcome graph active file use).value) :
    ∀ entry ∈ (contribution graph active file name embedded docs type).value,
      entry.2.Every (P ids) := by
  induction type generalizing name embedded docs with
  | primitive kind =>
      rw [contribution]
      exact invariant.every_single docs (invariant.every_primitive kind)
  | named type =>
      rw [contribution]
      cases known : wellKnownSchema? type with
      | some schema => exact invariant.every_single docs (invariant.every_wellKnown known)
      | none =>
          have use := uses _ (TypeUse.use?_named_eq_some.2 ⟨known, rfl⟩)
          rw [useOutcome] at use
          cases value : (namedUse graph active file embedded type).value with
          | schema made =>
              rw [value] at use
              simpa only [value] using invariant.every_single docs use
          | splice properties =>
              rw [value] at use
              simpa only [value, Resolution.Every] using use
          | skip => simp [value]
  | sequence item ih =>
      rw [contribution]
      exact invariant.every_single docs
        (invariant.every_array (invariant.every_onlySchema itemKey (ih itemKey false _ uses)))
  | mapping value ih =>
      rw [contribution]
      exact invariant.every_single docs
        (invariant.every_map (invariant.every_onlySchema itemKey (ih itemKey false _ uses)))
  | indirect inner ih =>
      rw [contribution]
      exact ih name embedded docs uses
  | any =>
      rw [contribution]
      exact invariant.every_single docs invariant.every_object
  | unsupported kind => simp [contribution]

/-- The properties of a struct have the invariant in all parts. They are extended field by field, so the
    induction is on the fields, with any properties that have it before. -/
theorem fieldProperties_every (fields : List Field) (properties : Entries String Schema)
    (before : ∀ entry ∈ properties, entry.2.Every (P ids))
    (uses : ∀ use ∈ fields.filterMap Field.use?,
      Resolution.Every (P ids) (useOutcome graph active file use).value) :
    ∀ entry ∈ (fieldProperties graph active file properties fields).value,
      entry.2.Every (P ids) := by
  induction fields generalizing properties with
  | nil =>
      rw [fieldProperties]
      exact before
  | cons field rest ih =>
      rw [filterMap_cons_eq] at uses
      have later : ∀ use ∈ rest.filterMap Field.use?,
          Resolution.Every (P ids) (useOutcome graph active file use).value :=
        fun use member => uses use (List.mem_append_right _ member)
      rw [fieldProperties]
      split
      · rename_i contributes
        refine ih _ (fun entry member => ?_) later
        rcases Entries.mem_extend member with early | new
        · exact before entry early
        · refine invariant.contribution_every field.type _ _ _ (fun use member => ?_) entry new
          refine uses use (List.mem_append_left _ ?_)
          rw [Field.use?, if_pos contributes]
          exact Option.mem_toList.2 member
      · exact ih properties before later

theorem shapeSchema_value_every (decl : TypeDeclaration)
    (uses : ∀ use ∈ decl.uses,
      Resolution.Every (P ids) (useOutcome graph active file use).value) :
    ∀ schema, (shapeSchema graph active file decl).value = some schema → schema.Every (P ids) := by
  rw [TypeDeclaration.uses] at uses
  rw [shapeSchema]
  cases shape : decl.shape with
  | struct fields =>
      rw [shape] at uses
      rintro schema ⟨⟩
      exact invariant.every_struct _ (ascending_fieldProperties _ _ _ fields trivial)
        (invariant.fieldProperties_every fields [] (by simp) uses)
  | «alias» target =>
      rw [shape] at uses
      rintro schema ⟨⟩
      refine invariant.every_described _ (invariant.every_onlySchema _
        (invariant.contribution_every target _ _ _ fun use member => uses use ?_))
      exact Option.mem_toList.2 member
  | enumeration names =>
      rintro schema ⟨⟩
      exact invariant.every_enumeration _ names
  | unmappable reason => simp

end Calls

end NodeInvariant

/-- What the uses of a declaration know, the declaration knows. -/
theorem known_of_mem_uses {graph : Declarations} {active : List String} {file : FileDeclarations}
    {decl : TypeDeclaration} {use : Use} (used : use ∈ decl.uses) {id : String}
    (known : (useOutcome graph active file use).Known id) :
    (shapeSchema graph active file decl).Known id := by
  rcases known with marked | ⟨schema, registered⟩
  · rw [Outcome.Known, shapeSchema_cyclic]
    exact Or.inl (List.mem_flatMap.2 ⟨use, used, marked⟩)
  · rw [Outcome.Known, shapeSchema_registrations]
    exact Or.inr ⟨schema, List.mem_flatMap.2 ⟨use, used, registered⟩⟩

/-- What a declaration knows is known to the use that it is worked out for: if the declaration itself
    is referred to, the use registers it. -/
theorem known_of_target {graph : Declarations} {active : List String} {file : FileDeclarations}
    {use : Use} {targetFile : FileDeclarations} {target : TypeDeclaration}
    (found : graph.findType? use.type.name file.path = some (targetFile, target))
    (fresh : target.name ∉ active) {id : String}
    (known : (shapeSchema graph (target.name :: active) targetFile target).Known id) :
    (useOutcome graph active file use).Known id := by
  rcases known with marked | ⟨schema, registered⟩
  · by_cases own : id = target.name
    · subst own
      cases value : (shapeSchema graph (target.name :: active) targetFile target).value with
      | none =>
          rw [cyclic_eq_nil_of_value_eq_none value] at marked
          cases marked
      | some schema =>
          exact Or.inr ⟨schema, mem_registrations_useOutcome.2
            ⟨targetFile, target, found, fresh, Or.inr ⟨schema, value, fun _ => marked, rfl⟩⟩⟩
    · exact Or.inl (mem_cyclic_useOutcome.2
        ⟨targetFile, target, found, Or.inr ⟨fresh, own, marked⟩⟩)
  · exact Or.inr ⟨schema, mem_registrations_useOutcome.2
      ⟨targetFile, target, found, fresh, Or.inl registered⟩⟩

/-- A use stands for the schema that was made, for its properties, or for a reference. -/
theorem every_useOf {Q : Schema → Prop} {name : String} {embedded : Bool} {made : Option Schema}
    {cyclic : List String} (every : ∀ schema, made = some schema → schema.Every Q)
    (reference : ∀ schema, made = some schema → embedded = false → (Schema.referTo name).Every Q) :
    Resolution.Every Q (useOf name embedded made cyclic).1 := by
  cases made with
  | none => trivial
  | some schema =>
      cases embedded with
      | false => exact reference schema rfl rfl
      | true =>
          simp only [useOf, if_true]
          split
          · exact fun entry member => (every schema rfl).property member
          · exact every schema rfl

namespace NodeInvariant

variable {P : (String → Prop) → Schema → Prop} (invariant : NodeInvariant P)
include invariant

/-- What a use stands for has the property in all parts, if the schema of its target has it when that
    is worked out for the use. -/
theorem useOutcome_value_every {graph : Declarations} {active : List String}
    {file : FileDeclarations} {use : Use}
    (targets : ∀ targetFile target,
      graph.findType? use.type.name file.path = some (targetFile, target) →
        target.name ∉ active →
          let made := shapeSchema graph (target.name :: active) targetFile target
          ∀ schema, made.value = some schema → schema.Every (P made.Known)) :
    Resolution.Every (P (useOutcome graph active file use).Known)
      (useOutcome graph active file use).value := by
  cases found : graph.findType? use.type.name file.path with
  | none =>
      rw [useOutcome, namedUse_of_missing found]
      trivial
  | some place =>
      obtain ⟨targetFile, target⟩ := place
      by_cases busy : target.name ∈ active
      · rw [useOutcome, namedUse_of_active found busy]
        cases use.flattened with
        | true => trivial
        | false => exact invariant.every_reference (Or.inl List.mem_cons_self)
      · have known : ∀ id, (shapeSchema graph (target.name :: active) targetFile target).Known id →
            (useOutcome graph active file use).Known id := fun _ => known_of_target found busy
        have target' := targets targetFile target found busy
        have self : ∀ schema,
            (shapeSchema graph (target.name :: active) targetFile target).value = some schema →
              use.flattened = false → (useOutcome graph active file use).Known target.name :=
          fun schema value reference => Or.inr ⟨schema, mem_registrations_useOutcome.2
            ⟨targetFile, target, found, busy,
              Or.inr ⟨schema, value, by simp [reference], rfl⟩⟩⟩
        generalize (useOutcome graph active file use).Known = ids at known self ⊢
        rw [useOutcome, namedUse_of_fresh found busy]
        refine every_useOf (fun schema value => ?_) fun schema value reference => ?_
        · exact (target' schema value).mono fun part => invariant.mono known
        · exact invariant.every_reference (self schema value reference)

/-- Whatever is returned or registered when a declaration is worked out has the property in all
    parts. -/
theorem shapeSchema_every (graph : Declarations) (active : List String) (file : FileDeclarations)
    (decl : TypeDeclaration) :
    let made := shapeSchema graph active file decl
    (∀ schema, made.value = some schema → schema.Every (P made.Known)) ∧
      ∀ entry ∈ made.registrations, entry.2.Every (P made.Known) := by
  induction active, file, decl using uses_induction graph with
  | step active file decl ih =>
      have known : ∀ use ∈ decl.uses, ∀ id, (useOutcome graph active file use).Known id →
          (shapeSchema graph active file decl).Known id := fun _ used _ => known_of_mem_uses used
      constructor
      · apply invariant.shapeSchema_value_every
        intro use used
        have value := invariant.useOutcome_value_every fun targetFile target found fresh =>
          (ih use used targetFile target found fresh).1
        revert value
        cases (useOutcome graph active file use).value with
        | schema made => exact Schema.Every.mono fun part => invariant.mono (known use used)
        | splice properties =>
            exact fun every entry member =>
              (every entry member).mono fun part => invariant.mono (known use used)
        | skip => exact fun _ => trivial
      · intro entry member
        rw [shapeSchema_registrations] at member
        obtain ⟨use, used, member⟩ := List.mem_flatMap.1 member
        obtain ⟨targetFile, target, found, fresh, inner | own⟩ :=
          mem_registrations_useOutcome.1 member
        · exact ((ih use used targetFile target found fresh).2 entry inner).mono fun part =>
            invariant.mono fun id h => known use used id (known_of_target found fresh h)
        · obtain ⟨schema, value, _, rfl⟩ := own
          exact ((ih use used targetFile target found fresh).1 schema value).mono fun part =>
            invariant.mono fun id h => known use used id (known_of_target found fresh h)

end NodeInvariant

/-- The identifiers that a run registers. -/
def Outcome.Registers {α : Type} (outcome : Outcome α) (id : String) : Prop :=
  ∃ schema, (id, schema) ∈ outcome.registrations

/-- What working out the type of a component knows, the component registers. -/
theorem registers_of_known {graph : Declarations} {file : FileDeclarations}
    {decl : TypeDeclaration} {componentId : String} {schema : Schema}
    (declared : decl.docs.componentId? = some componentId)
    (value : (typeSchema graph file decl).value = some schema) {id : String}
    (known : (typeSchema graph file decl).Known id) :
    (component graph file decl).Registers id := by
  rcases known with marked | ⟨other, registered⟩
  · have own : id = decl.name :=
      List.mem_singleton.1 (cyclic_subset_active graph _ file decl id marked)
    subst own
    exact ⟨schema, mem_registrations_component.2
      ⟨componentId, schema, declared, value, Or.inr (Or.inr ⟨marked, rfl⟩)⟩⟩
  · exact ⟨other, mem_registrations_component.2
      ⟨componentId, schema, declared, value, Or.inl registered⟩⟩

/-- Whatever a component returns or registers has the property in all parts, with references only to
    what the component registers. -/
theorem NodeInvariant.component_every {P : (String → Prop) → Schema → Prop}
    (invariant : NodeInvariant P) (graph : Declarations) (file : FileDeclarations)
    (decl : TypeDeclaration) :
    let made := component graph file decl
    (∀ schema, made.value = some schema → schema.Every (P made.Registers)) ∧
      ∀ entry ∈ made.registrations, entry.2.Every (P made.Registers) := by
  have every := invariant.shapeSchema_every graph [decl.name] file decl
  constructor
  · intro schema value
    obtain ⟨id, declared, value⟩ := component_value_eq_some.1 value
    exact (every.1 schema value).mono fun part =>
      invariant.mono fun _ known => registers_of_known declared value known
  · intro entry member
    obtain ⟨id, schema, declared, value, inner | rfl | ⟨_, rfl⟩⟩ :=
      mem_registrations_component.1 member
    · exact (every.2 entry inner).mono fun part =>
        invariant.mono fun _ known => registers_of_known declared value known
    · exact (every.1 schema value).mono fun part =>
        invariant.mono fun _ known => registers_of_known declared value known
    · exact (every.1 schema value).mono fun part =>
        invariant.mono fun _ known => registers_of_known declared value known

end Generation

end SwaggerDocs
