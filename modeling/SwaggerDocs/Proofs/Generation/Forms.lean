/-
Module: SwaggerDocs.Proofs.Generation.Forms
Purpose: The forms of generated schemas. A schema has one record of keywords for all its kinds; the
  schemas that are registered, and all their parts, nevertheless have the keywords of exactly one kind,
  descriptions, formats and payloads apart. Only a registered schema itself has properties, and none of
  its parts: a struct is referred to or spliced, and never written out inside another schema.
Main exports: Schema.Kind, Schema.HasKind, Schema.Flat, Generation.applyDocs_writes,
  nodeInvariant_hasKind, made_induction, Generator.registered_forms
-/
import Mathlib.Logic.ExistsUnique
import SwaggerDocs.Proofs.Generation.References
import SwaggerDocs.Proofs.Generation.Values

namespace SwaggerDocs

open Generation

namespace Schema

/-! ### Kinds

A schema is one record of keywords. A kind says which of them are there, and a schema has at most one
kind, because the kind can be read off its keywords. -/

/-- The kinds of schemas. -/
inductive Kind where
  | object
  | primitive
  | array
  | map
  | reference
  | empty
deriving Repr, DecidableEq

/-- The types of primitive schemas. -/
def primitiveTypes : List String := ["boolean", "integer", "number", "string"]

/-- The keywords that tell the kind of a schema: all but its description, its format and its
    payloads. -/
def skeleton (schema : Schema) : Schema :=
  { schema with format := none, description := none, exampleValue := none, defaultValue := none }

/-- A schema has the keywords of a kind, and besides them only a description, a format and payloads.
    Only a string may list names. -/
def HasKind (schema : Schema) : Kind → Prop
  | .object => ∃ properties, schema.skeleton = { object with properties := properties }
  | .primitive => ∃ type ∈ primitiveTypes, ∃ names, (type ≠ "string" → names = []) ∧
      schema.skeleton = { primitive type none with enumNames := names }
  | .array => ∃ items, schema.skeleton = array items
  | .map => ∃ values, schema.skeleton = map values
  | .reference => ∃ text, schema.skeleton = { reference := some text }
  | .empty => schema.skeleton = any

/-- The kind of a schema that has one, read off three of its keywords. -/
def kind (schema : Schema) : Kind :=
  match schema.type? with
  | none => if schema.reference.isSome then .reference else .empty
  | some "array" => .array
  | some "object" => if schema.additionalProperties.isSome then .map else .object
  | some _ => .primitive

/-- The kind is read off keywords that the skeleton keeps. -/
theorem kind_skeleton (schema : Schema) : schema.skeleton.kind = schema.kind := rfl

/-- A schema that has a kind has the one that is read off its keywords. -/
theorem HasKind.kind_eq {schema : Schema} {kind : Kind} (has : schema.HasKind kind) :
    schema.kind = kind := by
  rw [← kind_skeleton]
  cases kind with
  | object =>
      obtain ⟨properties, keywords⟩ := has
      rw [keywords]
      rfl
  | primitive =>
      obtain ⟨type, listed, names, _, keywords⟩ := has
      rw [keywords]
      simp only [primitiveTypes, List.mem_cons, List.not_mem_nil, or_false] at listed
      rcases listed with rfl | rfl | rfl | rfl <;> rfl
  | array =>
      obtain ⟨items, keywords⟩ := has
      rw [keywords]
      rfl
  | map =>
      obtain ⟨values, keywords⟩ := has
      rw [keywords]
      rfl
  | reference =>
      obtain ⟨text, keywords⟩ := has
      rw [keywords]
      rfl
  | empty =>
      have keywords : schema.skeleton = any := has
      rw [keywords]
      rfl

/-- No schema has two kinds. -/
theorem HasKind.existsUnique {schema : Schema} {kind : Kind} (has : schema.HasKind kind) :
    ∃! kind, schema.HasKind kind := by
  refine ⟨kind, has, ?_⟩
  intro other otherHas
  exact otherHas.kind_eq.symm.trans has.kind_eq

/-! ### Schemas without properties inside

Two properties go together: a schema that may be spliced is flat, and what is put into another schema is
bare. Both look at the parts of a schema at any depth. -/

/-- A schema is an immediate part of another one. -/
inductive ChildOf (child whole : Schema) : Prop where
  | property {name : String} (member : (name, child) ∈ whole.properties)
  | items (present : whole.items = some child)
  | values (present : whole.additionalProperties = some child)

/-- No part of a schema has properties, itself included. -/
def Bare (schema : Schema) : Prop := schema.Every fun part => part.properties = []

/-- No part of a schema but itself has properties. -/
def Flat (schema : Schema) : Prop := ∀ child : Schema, child.ChildOf schema → child.Bare

theorem PartOf.trans {part inner whole : Schema} (first : PartOf part inner)
    (second : PartOf inner whole) : PartOf part whole := by
  induction second with
  | self => exact first
  | property member inside ih => exact .property member ih
  | items present inside ih => exact .items present ih
  | values present inside ih => exact .values present ih

theorem ChildOf.partOf {child whole : Schema} (own : child.ChildOf whole) : PartOf child whole := by
  cases own with
  | property member => exact .property member .self
  | items present => exact .items present .self
  | values present => exact .values present .self

/-- No part has properties if the schema itself has none and none of its parts has. -/
theorem bare_iff {schema : Schema} : schema.Bare ↔ schema.properties = [] ∧ schema.Flat := by
  constructor
  · intro bare
    exact ⟨bare.self, fun child own part inside => bare part (inside.trans own.partOf)⟩
  · rintro ⟨none, flat⟩
    refine every_iff.2 ⟨none, ?_, ?_, ?_⟩
    · intro entry member
      exact flat entry.2 (.property member)
    · intro inner present
      exact flat inner (.items present)
    · intro inner present
      exact flat inner (.values present)

/-- In a flat schema, an immediate part of a part at any depth has no properties. -/
theorem Flat.properties_of_child {schema whole child : Schema} (flat : schema.Flat)
    (inside : PartOf whole schema) (own : child.ChildOf whole) : child.properties = [] := by
  cases inside with
  | self => exact (flat child own).self
  | property member inside => exact flat _ (.property member) child (own.partOf.trans inside)
  | items present inside => exact flat _ (.items present) child (own.partOf.trans inside)
  | values present inside => exact flat _ (.values present) child (own.partOf.trans inside)

/-- A schema without parts has no properties anywhere. -/
theorem bare_of_leaf {schema : Schema} (properties : schema.properties = [])
    (items : schema.items = none) (values : schema.additionalProperties = none) : schema.Bare := by
  refine bare_iff.2 ⟨properties, fun child own => ?_⟩
  cases own with
  | property member =>
      rw [properties] at member
      cases member
  | items present =>
      rw [items] at present
      cases present
  | values present =>
      rw [values] at present
      cases present

/-- An array has properties nowhere if its items have none. -/
theorem bare_array {items : Schema} (bare : items.Bare) : (array items).Bare := by
  refine bare_iff.2 ⟨rfl, fun child own => ?_⟩
  cases own with
  | property member => cases member
  | items present =>
      cases present
      exact bare
  | values present => cases present

/-- A map has properties nowhere if its values have none. -/
theorem bare_map {values : Schema} (bare : values.Bare) : (map values).Bare := by
  refine bare_iff.2 ⟨rfl, fun child own => ?_⟩
  cases own with
  | property member => cases member
  | items present => cases present
  | values present =>
      cases present
      exact bare

/-- The parts of a schema are among the keywords that tell its kind. -/
theorem Bare.of_skeleton {schema other : Schema} (bare : schema.Bare)
    (same : other.skeleton = schema.skeleton) : other.Bare := by
  have properties : other.skeleton.properties = schema.skeleton.properties := by rw [same]
  have items : other.skeleton.items = schema.skeleton.items := by rw [same]
  have values : other.skeleton.additionalProperties = schema.skeleton.additionalProperties := by
    rw [same]
  exact bare.congr (properties.trans bare.self) properties items values

end Schema

/-! ### What documentation writes

The directives of a documentation block are applied in turn, and each writes one keyword. So the keywords
can be read off the directives one by one, as what was written last. -/

namespace SchemaDirective

/-- The example that a directive gives a schema. -/
@[simp] def exampleText? : SchemaDirective → Option String
  | .example text => some text
  | _ => none

/-- The format that a directive gives a schema. -/
@[simp] def formatText? : SchemaDirective → Option String
  | .format text => some text
  | _ => none

/-- The default value that a directive gives a schema. -/
@[simp] def defaultText? : SchemaDirective → Option String
  | .default text => some text
  | _ => none

end SchemaDirective

namespace Generation

/-- Of the directives for one keyword the last one counts. A keyword that none of them is for is left as
    it is. -/
theorem foldl_applyDirective (directives : List SchemaDirective) (schema : Schema) :
    directives.foldl applyDirective schema =
      { schema with
        exampleValue :=
          ((directives.filterMap (·.exampleText?)).getLast?.map .string).or schema.exampleValue
        format := (directives.filterMap (·.formatText?)).getLast?.or schema.format
        defaultValue :=
          ((directives.filterMap (·.defaultText?)).getLast?.map .string).or schema.defaultValue } := by
  induction directives generalizing schema with
  | nil =>
      cases schema
      rfl
  | cons directive rest ih =>
      rw [List.foldl_cons, ih]
      simp only [filterMap_cons_eq, List.getLast?_append, Option.map_or, Option.or_assoc]
      cases directive <;> rfl

/-- The documentation of a field writes the description of its schema, and the example, the format and
    the default value that its directives give last. All other keywords are those of the type. -/
theorem applyDocs_writes (schema : Schema) (docs : Documentation) :
    let directives := docs.lines.filterMap Directive.parseSchema?
    applyDocs schema docs =
      { schema with
        description := docs.text?
        exampleValue :=
          ((directives.filterMap (·.exampleText?)).getLast?.map .string).or schema.exampleValue
        format := (directives.filterMap (·.formatText?)).getLast?.or schema.format
        defaultValue :=
          ((directives.filterMap (·.defaultText?)).getLast?.map .string).or schema.defaultValue } :=
  foldl_applyDirective _ _

/-! ### Kinds of generated schemas

Each form of a schema has a kind when it is made, and a documentation block writes keywords that do not
count for it. So the invariant of all nodes applies. -/

/-- A documentation block changes the description, the format and the payloads of a schema only. -/
theorem skeleton_applyDocs (schema : Schema) (docs : Documentation) :
    (applyDocs schema docs).skeleton = schema.skeleton := by
  rw [applyDocs_writes]
  rfl

/-- A documentation block leaves a reference as it is. -/
theorem reference_applyDocs (schema : Schema) (docs : Documentation) :
    (applyDocs schema docs).reference = schema.reference := by
  rw [applyDocs_writes]

/-- The type of a primitive is one of the four that are listed. -/
theorem primitiveType_mem (kind : Primitive) : (primitiveType kind).1 ∈ Schema.primitiveTypes := by
  cases kind <;> decide

/-- All forms of generated schemas have a kind, and no edit changes it. -/
theorem nodeInvariant_hasKind : NodeInvariant fun _ schema => ∃ kind, schema.HasKind kind where
  mono _ has := has
  any _ := ⟨.empty, rfl⟩
  struct _ _ properties _ := ⟨.object, properties, rfl⟩
  enumeration _ _ names :=
    ⟨.primitive, "string", by decide, names, fun other => absurd rfl other, rfl⟩
  primitive _ kind := ⟨.primitive, _, primitiveType_mem kind, [], fun _ => rfl, rfl⟩
  wellKnown _ _ := ⟨.primitive, "string", by decide, [], fun _ => rfl, rfl⟩
  array _ items := ⟨.array, items, rfl⟩
  map _ values := ⟨.map, values, rfl⟩
  reference {_ id} _ := ⟨.reference, Schema.referenceStart ++ id, rfl⟩
  described _ has := has
  directive directive has := by cases directive <;> exact has

/-! ### Schemas that a run makes

An induction over all that a run works out, for properties that are not those of single nodes. It goes
by what uses stand for: the step for a declaration assumes the property of what its uses stand for. -/

/-- A property of the schemas that a run returns or registers, whatever they refer to. It may assume a
    property of what uses stand for, which has to follow for the uses of types whose schemas have it. -/
theorem made_induction (graph : Declarations) (made : Schema → Prop) (stands : Resolution → Prop)
    (skip : stands .skip) (reference : ∀ name, stands (.schema (Schema.referTo name)))
    (use : ∀ name embedded schema cyclic, made schema →
      stands (useOf name embedded (some schema) cyclic).1)
    (shape : ∀ resolve (decl : TypeDeclaration), (∀ use ∈ decl.uses, stands (resolve use)) →
      ∀ schema, schemaBy resolve decl = some schema → made schema)
    (active : List String) (file : FileDeclarations) (decl : TypeDeclaration) :
    (∀ schema, (shapeSchema graph active file decl).value = some schema → made schema) ∧
      ∀ entry ∈ (shapeSchema graph active file decl).registrations, made entry.2 := by
  induction active, file, decl using uses_induction graph with
  | step active file decl ih =>
      constructor
      · rw [value_shapeSchema]
        apply shape
        intro own used
        rw [standsFor, useOutcome]
        cases found : graph.findType? own.type.name file.path with
        | none =>
            rw [namedUse_of_missing found]
            exact skip
        | some target =>
            by_cases busy : target.2.name ∈ active
            · rw [namedUse_of_active found busy]
              split
              · exact skip
              · exact reference target.2.name
            · rw [namedUse_of_fresh found busy]
              dsimp only
              cases value : (shapeSchema graph (target.2.name :: active) target.1 target.2).value with
              | none => exact skip
              | some schema =>
                  exact use _ _ schema _ ((ih own used target.1 target.2 found busy).1 schema value)
      · intro entry member
        rw [shapeSchema_registrations] at member
        obtain ⟨own, used, member⟩ := List.mem_flatMap.1 member
        obtain ⟨targetFile, target, found, fresh, inner | registered⟩ :=
          mem_registrations_useOutcome.1 member
        · exact (ih own used targetFile target found fresh).2 entry inner
        · obtain ⟨schema, value, _, rfl⟩ := registered
          exact (ih own used targetFile target found fresh).1 schema value

/-- What a component registers was returned or registered when its type was worked out. -/
theorem made_of_registered {graph : Declarations} {made : Schema → Prop} {file : FileDeclarations}
    {decl : TypeDeclaration}
    (every : (∀ schema, (typeSchema graph file decl).value = some schema → made schema) ∧
      ∀ entry ∈ (typeSchema graph file decl).registrations, made entry.2) :
    ∀ entry ∈ (component graph file decl).registrations, made entry.2 := by
  intro entry member
  obtain ⟨id, schema, _, value, inner | rfl | ⟨_, rfl⟩⟩ := mem_registrations_component.1 member
  · exact every.2 entry inner
  · exact every.1 schema value
  · exact every.1 schema value

/-! ### Properties stand at the root only

A struct that is used inside another type is referred to, or its properties are spliced into the
properties of the struct around it. Neither puts an object with properties below the root. -/

/-- What a use stands for has no properties inside. -/
abbrev Resolution.Bare : Resolution → Prop := Resolution.Every fun part => part.properties = []

section Bare

variable {resolve : Use → Resolution}

/-- A lone schema has no properties after its documentation if it had none before. -/
theorem bare_single {name : String} {schema : Schema} (docs : Documentation) (bare : schema.Bare) :
    ∀ entry ∈ single name schema docs, entry.2.Bare := by
  intro entry member
  rw [List.mem_singleton.1 member]
  exact bare.of_skeleton (skeleton_applyDocs schema docs)

/-- The schema of a name has no properties if no contributed schema has; nor has the one without
    keywords that stands in for it. -/
theorem bare_onlySchema (name : String) {properties : Entries String Schema}
    (bare : ∀ entry ∈ properties, entry.2.Bare) : (onlySchema name properties).Bare := by
  rw [onlySchema]
  cases found : properties.find? name with
  | none => exact Schema.bare_of_leaf rfl rfl rfl
  | some schema => exact bare _ (Entries.mem_of_find? found)

/-- A well-known type is a string, with no parts. -/
theorem bare_wellKnown {type : TypeName} {schema : Schema}
    (known : wellKnownSchema? type = some schema) : schema.Bare := by
  rw [wellKnownSchema?] at known
  split at known
  · obtain ⟨format, _, rfl⟩ := Option.map_eq_some_iff.1 known
    exact Schema.bare_of_leaf rfl rfl rfl
  · cases known

/-- A field contributes schemas without properties if what its use stands for has none. By induction on
    its type, of which arrays and maps wrap the contribution of what is inside. -/
theorem bare_contributionBy (type : TypeUse) (name : String) (embedded : Bool)
    (docs : Documentation) (uses : ∀ use ∈ type.use? embedded, (resolve use).Bare) :
    ∀ entry ∈ contributionBy resolve name embedded docs type, entry.2.Bare := by
  induction type generalizing name embedded docs with
  | primitive kind => exact bare_single docs (Schema.bare_of_leaf rfl rfl rfl)
  | named type =>
      rw [contributionBy]
      cases known : wellKnownSchema? type with
      | some schema => exact bare_single docs (bare_wellKnown known)
      | none =>
          have use := uses _ (TypeUse.use?_named_eq_some.2 ⟨known, rfl⟩)
          revert use
          cases resolve ⟨type, embedded⟩ with
          | schema made => exact bare_single docs
          | splice properties => exact id
          | skip =>
              intro _ entry absent
              cases absent
  | sequence item ih =>
      exact bare_single docs (Schema.bare_array (bare_onlySchema itemKey (ih itemKey false _ uses)))
  | mapping value ih =>
      exact bare_single docs (Schema.bare_map (bare_onlySchema itemKey (ih itemKey false _ uses)))
  | indirect inner ih => exact ih name embedded docs uses
  | any => exact bare_single docs (Schema.bare_of_leaf rfl rfl rfl)
  | unsupported kind =>
      intro entry absent
      cases absent

/-- The schema of a declaration is flat if its uses stand for schemas without properties, and only a
    plain object has properties. -/
theorem flat_schemaBy {decl : TypeDeclaration} (uses : ∀ use ∈ decl.uses, (resolve use).Bare)
    {schema : Schema} (made : schemaBy resolve decl = some schema) :
    schema.Flat ∧ (schema.isObject = false → schema.Bare) := by
  rw [TypeDeclaration.uses] at uses
  rw [schemaBy] at made
  cases shape : decl.shape with
  | struct fields =>
      rw [shape] at made uses
      cases made
      refine ⟨?_, by intro notObject; cases notObject⟩
      intro child own
      cases own with
      | property member =>
          -- A property of the struct comes from one of its fields.
          have listed := Entries.mem_of_mem_ofList member
          obtain ⟨field, chosen, contributed⟩ := List.mem_flatMap.1 listed
          obtain ⟨inFields, contributes⟩ := List.mem_filter.1 chosen
          refine bare_contributionBy field.type _ _ _ (fun use used => uses use ?_) _ contributed
          refine List.mem_filterMap.2 ⟨field, inFields, ?_⟩
          rw [Field.use?, if_pos contributes]
          exact used
      | items present => cases present
      | values present => cases present
  | «alias» target =>
      rw [shape] at made uses
      cases made
      have bare := bare_onlySchema decl.name (bare_contributionBy target decl.name false decl.docs
        fun use used => uses use (Option.mem_toList.2 used))
      have described : Schema.Bare ((onlySchema decl.name (contributionBy resolve decl.name false
          decl.docs target)).withDescription decl.docs.text?) := bare.of_skeleton rfl
      exact ⟨(Schema.bare_iff.1 described).2, fun _ => described⟩
  | enumeration names =>
      rw [shape] at made
      cases made
      have bare : Schema.Bare { Schema.primitive "string" none with
          description := decl.docs.text?, enumNames := names } := Schema.bare_of_leaf rfl rfl rfl
      exact ⟨(Schema.bare_iff.1 bare).2, fun _ => bare⟩
  | unmappable reason =>
      rw [shape] at made
      cases made

end Bare

/-- A use of a flat schema stands for schemas without properties: the name alone, the properties that
    are spliced, or a schema that is no plain object and has none. -/
theorem bare_useOf {schema : Schema} (name : String) (embedded : Bool) (cyclic : List String)
    (flat : schema.Flat ∧ (schema.isObject = false → schema.Bare)) :
    (useOf name embedded (some schema) cyclic).1.Bare := by
  cases embedded with
  | false => exact Schema.bare_of_leaf rfl rfl rfl
  | true =>
      simp only [useOf, if_true]
      split
      · intro entry member
        exact flat.1 entry.2 (.property member)
      · rename_i other
        exact flat.2 (by simpa using other)

/-- Whatever a component registers is flat. -/
theorem component_flat (graph : Declarations) (file : FileDeclarations) (decl : TypeDeclaration) :
    ∀ entry ∈ (component graph file decl).registrations, entry.2.Flat := by
  have reference (name : String) : Resolution.Bare (.schema (Schema.referTo name)) :=
    Schema.bare_of_leaf rfl rfl rfl
  have every := made_induction graph
    (fun schema => schema.Flat ∧ (schema.isObject = false → schema.Bare)) Resolution.Bare trivial
    reference (fun name embedded _ cyclic => bare_useOf name embedded cyclic)
    (fun _ _ uses _ => flat_schemaBy uses) [decl.name] file decl
  intro entry member
  exact (made_of_registered every entry member).1

end Generation

namespace Generator

/-- After any calls on declared types, every part of a registered schema has the keywords of exactly one
    kind, and an immediate part of any of these parts has no properties. -/
theorem registered_forms (graph : Declarations) (policy : RegistrationPolicy)
    (calls : List (FileDeclarations × TypeDeclaration)) :
    ∀ entry ∈ (generateEach graph calls (Context.start policy)).2.registry.schemas,
      (∀ part, Schema.PartOf part entry.2 → ∃! kind, part.HasKind kind) ∧
        ∀ whole, Schema.PartOf whole entry.2 → ∀ child : Schema, child.ChildOf whole →
          child.properties = [] := by
  intro entry member
  rw [registry_generateEach_start] at member
  rcases Registry.mem_schemas_registerAll member with old | new
  · cases old
  · obtain ⟨call, _, registered⟩ := mem_traceOf.1 new
    have kinds := (nodeInvariant_hasKind.component_every graph call.1 call.2).2 entry registered
    have flat := component_flat graph call.1 call.2 entry registered
    constructor
    · intro part inside
      obtain ⟨kind, has⟩ := kinds part inside
      exact has.existsUnique
    · intro whole inside child own
      exact flat.properties_of_child inside own

/-- A component with arrays of maps. -/
def catalogType : TypeDeclaration where
  name := "Catalog"
  docs := ⟨["openapi:component schema Catalog"]⟩
  shape := .struct [⟨"pages", true, false, none, .sequence (.mapping (.primitive .string)), .empty⟩]

/-- The file of the component. -/
def catalogFile : FileDeclarations where
  path := ⟨"catalog.rs"⟩
  docs := .empty
  types := [catalogType]
  functions := []

/-- The component is registered, so its arrays and maps have their forms. -/
theorem registered_forms_catalog :
    ∃ schema, ("Catalog", schema) ∈ (generateEach ⟨[catalogFile]⟩ [(catalogFile, catalogType)]
        (Context.start .overwrite)).2.registry.schemas ∧
      (∀ part, Schema.PartOf part schema → ∃! kind, part.HasKind kind) ∧
        ∀ whole, Schema.PartOf whole schema → ∀ child : Schema, child.ChildOf whole →
          child.properties = [] := by
  have declared : catalogType.docs.componentId? = some "Catalog" := by decide +kernel
  have registers := registers_componentId ⟨[catalogFile]⟩ catalogFile declared rfl
  have defined := mem_ids_of_registers ⟨[catalogFile]⟩ .overwrite [(catalogFile, catalogType)]
    (List.mem_singleton_self _) registers
  obtain ⟨schema, found⟩ := Option.isSome_iff_exists.1 (Registry.mem_ids.1 defined)
  have registered := Entries.mem_of_find? found
  exact ⟨schema, registered, registered_forms _ .overwrite _ _ registered⟩

end Generator

end SwaggerDocs
