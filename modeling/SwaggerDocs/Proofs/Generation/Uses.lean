/-
Module: SwaggerDocs.Proofs.Generation.Uses
Purpose: The uses of named types in declarations, and what a run does about them: apart from its
  warnings, working out a declaration does what its uses do, one after another. This is where the
  recursion through fields and types is taken apart once; the facts about registrations and cyclic
  names below are inductions on uses.
Main exports: Use, TypeUse.use?, TypeDeclaration.uses, Outcome.registrations, shapeSchema_cyclic,
  shapeSchema_registrations, uses_induction
-/
import SwaggerDocs.Proofs.Generation.Outcome

namespace SwaggerDocs

/-- A use of a named type that is not a well-known one. It is flattened if the properties of the type
    are to be spliced. -/
structure Use where
  type : TypeName
  flattened : Bool
deriving Repr, DecidableEq

/-- The use in the type of a field, of which there is at most one. Wrappers pass on that a field is
    embedded; arrays and maps do not. -/
def TypeUse.use? (embedded : Bool) : TypeUse → Option Use
  | .named type =>
      match Generation.wellKnownSchema? type with
      | some _ => none
      | none => some ⟨type, embedded⟩
  | .sequence item => item.use? false
  | .mapping value => value.use? false
  | .indirect inner => inner.use? embedded
  | .primitive _ | .any | .unsupported _ => none

/-- A named type is used unless it is a well-known one. -/
theorem TypeUse.use?_named_eq_some {type : TypeName} {embedded : Bool} {use : Use} :
    (TypeUse.named type).use? embedded = some use ↔
      Generation.wellKnownSchema? type = none ∧ use = ⟨type, embedded⟩ := by
  rw [use?]
  cases Generation.wellKnownSchema? type with
  | none => simp [eq_comm]
  | some schema => simp

/-- The use in a field, if the field contributes to the schema of its struct. -/
def Field.use? (field : Field) : Option Use :=
  if field.contributes then field.type.use? field.embedded else none

/-- The uses in a declaration: in the target of an alias, and in the fields of a struct. -/
def TypeDeclaration.uses (decl : TypeDeclaration) : List Use :=
  match decl.shape with
  | .struct fields => fields.filterMap Field.use?
  | .alias target => (target.use? false).toList
  | .enumeration _ | .unmappable _ => []

/-- The type has a schema. -/
def TypeDeclaration.mappable (decl : TypeDeclaration) : Bool :=
  match decl.shape with
  | .unmappable _ => false
  | _ => true

/-- The registration that an event is. -/
def Event.registration? : Event → Option (String × Schema)
  | .register id schema => some (id, schema)
  | .warn _ => none

namespace Generation

/-- The registrations of a run, in order. -/
def Outcome.registrations {α : Type} (outcome : Outcome α) : List (String × Schema) :=
  outcome.events.filterMap Event.registration?

/-- What a run does about one use. -/
def useOutcome (graph : Declarations) (active : List String) (file : FileDeclarations) (use : Use) :
    Outcome Resolution :=
  namedUse graph active file use.flattened use.type

section Effects

variable (graph : Declarations) (active : List String) (file : FileDeclarations)

/-- The first item of a list and the others are taken one after another. -/
theorem filterMap_cons_eq {α β : Type} (f : α → Option β) (a : α) (rest : List α) :
    (a :: rest).filterMap f = (f a).toList ++ rest.filterMap f := by
  rw [List.filterMap_cons]
  cases f a <;> rfl

/-- A field meets the cyclic names of its use, if it has one. -/
theorem contribution_cyclic (type : TypeUse) (name : String) (embedded : Bool)
    (docs : Documentation) :
    (contribution graph active file name embedded docs type).cyclic =
      (type.use? embedded).toList.flatMap fun use => (useOutcome graph active file use).cyclic := by
  induction type generalizing name embedded docs with
  | named type =>
      rw [contribution, TypeUse.use?]
      cases wellKnownSchema? type <;> simp [useOutcome]
  | sequence item ih => simp [contribution, TypeUse.use?, ih]
  | mapping value ih => simp [contribution, TypeUse.use?, ih]
  | indirect inner ih => simp [contribution, TypeUse.use?, ih]
  | primitive kind => simp [contribution, TypeUse.use?]
  | any => simp [contribution, TypeUse.use?]
  | unsupported kind => simp [contribution, TypeUse.use?]

/-- A field registers what its use does. -/
theorem contribution_registrations (type : TypeUse) (name : String) (embedded : Bool)
    (docs : Documentation) :
    (contribution graph active file name embedded docs type).registrations =
      (type.use? embedded).toList.flatMap fun use =>
        (useOutcome graph active file use).registrations := by
  induction type generalizing name embedded docs with
  | named type =>
      rw [contribution, TypeUse.use?]
      cases wellKnownSchema? type <;> simp [useOutcome, Outcome.registrations]
  | sequence item ih =>
      simpa [contribution, TypeUse.use?, Outcome.registrations] using ih itemKey false _
  | mapping value ih =>
      simpa [contribution, TypeUse.use?, Outcome.registrations] using ih itemKey false _
  | indirect inner ih => rw [contribution, TypeUse.use?, ih]
  | primitive kind =>
      rw [contribution, TypeUse.use?, Outcome.registrations]
      dsimp only
      split <;> rfl
  | any => simp [contribution, TypeUse.use?, Outcome.registrations]
  | unsupported kind =>
      simp [contribution, TypeUse.use?, Outcome.registrations, Event.registration?]

/-- The fields of a struct meet the cyclic names of their uses, in order. -/
theorem fieldProperties_cyclic (fields : List Field) (properties : Entries String Schema) :
    (fieldProperties graph active file properties fields).cyclic =
      (fields.filterMap Field.use?).flatMap fun use => (useOutcome graph active file use).cyclic := by
  induction fields generalizing properties with
  | nil => simp [fieldProperties]
  | cons field rest ih =>
      rw [fieldProperties, filterMap_cons_eq, List.flatMap_append, Field.use?]
      split
      · simp only [ih, contribution_cyclic]
      · rw [ih]
        rfl

/-- They register what their uses do, in order. -/
theorem fieldProperties_registrations (fields : List Field) (properties : Entries String Schema) :
    (fieldProperties graph active file properties fields).registrations =
      (fields.filterMap Field.use?).flatMap fun use =>
        (useOutcome graph active file use).registrations := by
  induction fields generalizing properties with
  | nil => simp [fieldProperties, Outcome.registrations]
  | cons field rest ih =>
      rw [fieldProperties, filterMap_cons_eq, List.flatMap_append, Field.use?]
      split
      · rw [← contribution_registrations, ← ih, Outcome.registrations, List.filterMap_append]
        rfl
      · rw [ih]
        rfl

/-- The cyclic names of a declaration are those of its uses. -/
theorem shapeSchema_cyclic (decl : TypeDeclaration) :
    (shapeSchema graph active file decl).cyclic =
      decl.uses.flatMap fun use => (useOutcome graph active file use).cyclic := by
  rw [shapeSchema, TypeDeclaration.uses]
  cases decl.shape with
  | struct fields => exact fieldProperties_cyclic graph active file fields []
  | «alias» target => exact contribution_cyclic graph active file target _ _ _
  | enumeration names => rfl
  | unmappable reason => rfl

/-- The registrations of a declaration are those of its uses. -/
theorem shapeSchema_registrations (decl : TypeDeclaration) :
    (shapeSchema graph active file decl).registrations =
      decl.uses.flatMap fun use => (useOutcome graph active file use).registrations := by
  rw [shapeSchema, TypeDeclaration.uses]
  cases decl.shape with
  | struct fields => exact fieldProperties_registrations graph active file fields []
  | «alias» target => exact contribution_registrations graph active file target _ _ _
  | enumeration names => rfl
  | unmappable reason => rfl

end Effects

/-! ### One use

A use is looked up, and then there are three cases: no declaration, one that is active, and a fresh one.
-/

section OneUse

variable {graph : Declarations} {active : List String} {file : FileDeclarations}

/-- A name that is not declared is passed over with a warning. -/
theorem namedUse_of_missing {embedded : Bool} {type : TypeName}
    (missing : graph.findType? type.name file.path = none) :
    namedUse graph active file embedded type =
      { value := .skip, events := [.warn (.missingDeclaration type.name file.path)] } := by
  rw [namedUse]
  split
  · rfl
  · rename_i found
    rw [missing] at found
    cases found

variable {targetFile : FileDeclarations} {target : TypeDeclaration}

/-- A type that is being worked out is referred to, and marked as cyclic; an embedded one is passed over
    with a warning. -/
theorem namedUse_of_active {embedded : Bool} {type : TypeName}
    (found : graph.findType? type.name file.path = some (targetFile, target))
    (busy : target.name ∈ active) :
    namedUse graph active file embedded type =
      if embedded then { value := .skip, events := [.warn (.flattensItself target.name)] }
      else { value := .schema (Schema.referTo target.name), cyclic := [target.name] } := by
  rw [namedUse]
  split
  · rename_i missing
    rw [found] at missing
    cases missing
  · rename_i found'
    cases found.symm.trans found'
    rw [dif_pos busy]

/-- Any other type is worked out on the spot, with its name active. -/
theorem namedUse_of_fresh {embedded : Bool} {type : TypeName}
    (found : graph.findType? type.name file.path = some (targetFile, target))
    (fresh : target.name ∉ active) :
    namedUse graph active file embedded type =
      let made := shapeSchema graph (target.name :: active) targetFile target
      let settled := useOf target.name embedded made.value made.cyclic
      { value := settled.1
        cyclic := made.cyclic.filter (· ≠ target.name)
        events := made.events ++ settled.2 } := by
  rw [namedUse]
  split
  · rename_i missing
    rw [found] at missing
    cases missing
  · rename_i found'
    cases found.symm.trans found'
    rw [dif_neg fresh]

variable {use : Use}

/-- A type is registered after it is worked out if it has a schema, and if it is referred to: by the
    use itself, or by one of its own parts. -/
theorem mem_registrations_useOf {name : String} {embedded : Bool} {schema : Option Schema}
    {cyclic : List String} {entry : String × Schema} :
    entry ∈ (useOf name embedded schema cyclic).2.filterMap Event.registration? ↔
      ∃ made, schema = some made ∧ (embedded = true → name ∈ cyclic) ∧ entry = (name, made) := by
  cases schema with
  | none => simp [useOf]
  | some made =>
      by_cases flat : embedded = true
      · by_cases referred : name ∈ cyclic <;> simp [useOf, flat, referred, Event.registration?]
      · simp [useOf, flat, Event.registration?]

/-- What a use adds to the cyclic names. -/
theorem mem_cyclic_useOutcome {name : String} :
    name ∈ (useOutcome graph active file use).cyclic ↔
      ∃ targetFile target, graph.findType? use.type.name file.path = some (targetFile, target) ∧
        ((target.name ∈ active ∧ use.flattened = false ∧ name = target.name) ∨
          (target.name ∉ active ∧ name ≠ target.name ∧
            name ∈ (shapeSchema graph (target.name :: active) targetFile target).cyclic)) := by
  cases found : graph.findType? use.type.name file.path with
  | none => simp [useOutcome, namedUse_of_missing found]
  | some place =>
      obtain ⟨targetFile, target⟩ := place
      by_cases busy : target.name ∈ active
      · rw [useOutcome, namedUse_of_active found busy]
        cases flat : use.flattened <;> simp [busy, and_assoc]
      · rw [useOutcome, namedUse_of_fresh found busy]
        have inner (cyclic : List String) :
            name ∈ cyclic.filter (· ≠ target.name) ↔ name ≠ target.name ∧ name ∈ cyclic := by
          rw [List.mem_filter, decide_eq_true_eq, and_comm]
        simp only [inner]
        simp [busy, and_assoc]

/-- What a use registers. -/
theorem mem_registrations_useOutcome {entry : String × Schema} :
    entry ∈ (useOutcome graph active file use).registrations ↔
      ∃ targetFile target, graph.findType? use.type.name file.path = some (targetFile, target) ∧
        target.name ∉ active ∧
          let made := shapeSchema graph (target.name :: active) targetFile target
          (entry ∈ made.registrations ∨
            ∃ schema, made.value = some schema ∧
              (use.flattened = true → target.name ∈ made.cyclic) ∧
                entry = (target.name, schema)) := by
  cases found : graph.findType? use.type.name file.path with
  | none => simp [useOutcome, namedUse_of_missing found, Outcome.registrations, Event.registration?]
  | some place =>
      obtain ⟨targetFile, target⟩ := place
      by_cases busy : target.name ∈ active
      · rw [useOutcome, namedUse_of_active found busy]
        cases flat : use.flattened <;>
          simp [busy, and_assoc, Outcome.registrations, Event.registration?]
      · rw [useOutcome, namedUse_of_fresh found busy]
        simp only [Outcome.registrations, List.filterMap_append, List.mem_append,
          mem_registrations_useOf]
        simp [busy, and_assoc]

end OneUse

/-! ### Induction on uses

The generator works out a type within a type as long as it meets fresh names, of which there are fewer
each time. An induction on this recursion has to speak of all sets of active names. -/

/-- To show something of every declaration and all active names, one may assume it of the targets of
    its uses that are not active, with their names active as well. -/
theorem uses_induction (graph : Declarations)
    {motive : List String → FileDeclarations → TypeDeclaration → Prop}
    (step : ∀ active file decl,
      (∀ use ∈ decl.uses, ∀ targetFile target,
        graph.findType? use.type.name file.path = some (targetFile, target) →
          target.name ∉ active → motive (target.name :: active) targetFile target) →
      motive active file decl)
    (active : List String) (file : FileDeclarations) (decl : TypeDeclaration) :
    motive active file decl := by
  induction measure : inactive graph active using Nat.strongRecOn generalizing active file decl with
  | ind n ih =>
      subst measure
      apply step
      intro use _ targetFile target found fresh
      exact ih _ (inactive_target_lt found fresh) _ _ _ rfl

/-- Only active names are referred to as such. -/
theorem cyclic_subset_active (graph : Declarations) (active : List String)
    (file : FileDeclarations) (decl : TypeDeclaration) :
    ∀ name ∈ (shapeSchema graph active file decl).cyclic, name ∈ active := by
  induction active, file, decl using uses_induction graph with
  | step active file decl ih =>
      intro name member
      rw [shapeSchema_cyclic] at member
      obtain ⟨use, used, member⟩ := List.mem_flatMap.1 member
      obtain ⟨targetFile, target, found, busy | fresh⟩ := mem_cyclic_useOutcome.1 member
      · rw [busy.2.2]
        exact busy.1
      · obtain ⟨fresh, other, member⟩ := fresh
        exact (List.mem_cons.1 (ih use used targetFile target found fresh name member)).resolve_left
          other

/-- A use marks no other names than active ones. -/
theorem cyclic_useOutcome_subset_active {graph : Declarations} {active : List String}
    {file : FileDeclarations} {use : Use} :
    ∀ name ∈ (useOutcome graph active file use).cyclic, name ∈ active := by
  intro name member
  obtain ⟨targetFile, target, found, busy | fresh⟩ := mem_cyclic_useOutcome.1 member
  · rw [busy.2.2]
    exact busy.1
  · exact (List.mem_cons.1 (cyclic_subset_active graph _ _ _ name fresh.2.2)).resolve_left fresh.2.1

/-- A declaration is worked out to a schema unless its shape has none. -/
theorem isSome_value_shapeSchema (graph : Declarations) (active : List String)
    (file : FileDeclarations) (decl : TypeDeclaration) :
    (shapeSchema graph active file decl).value.isSome = decl.mappable := by
  rw [shapeSchema, TypeDeclaration.mappable]
  cases decl.shape <;> rfl

/-- A declaration of a kind that can be mapped always has a schema. -/
theorem exists_value_of_mappable (graph : Declarations) (active : List String)
    (file : FileDeclarations) {decl : TypeDeclaration} (mappable : decl.mappable = true) :
    ∃ schema, (shapeSchema graph active file decl).value = some schema := by
  rw [← isSome_value_shapeSchema graph active file] at mappable
  exact Option.isSome_iff_exists.1 mappable

/-- Only such a declaration has one. -/
theorem mappable_of_value {graph : Declarations} {active : List String} {file : FileDeclarations}
    {decl : TypeDeclaration} {schema : Schema}
    (value : (shapeSchema graph active file decl).value = some schema) : decl.mappable = true := by
  rw [← isSome_value_shapeSchema graph active file, value]
  rfl

/-- A declaration of another kind has none. -/
theorem value_of_unmappable {graph : Declarations} {active : List String} {file : FileDeclarations}
    {decl : TypeDeclaration} (unmappable : decl.mappable = false) :
    (shapeSchema graph active file decl).value = none := by
  rw [← Option.isNone_iff_eq_none, ← Option.isSome_eq_false_iff, isSome_value_shapeSchema,
    unmappable]

/-- A type without schema has no uses. -/
theorem uses_eq_nil_of_value_eq_none {graph : Declarations} {active : List String}
    {file : FileDeclarations} {decl : TypeDeclaration}
    (unmapped : (shapeSchema graph active file decl).value = none) : decl.uses = [] := by
  rw [shapeSchema] at unmapped
  rw [TypeDeclaration.uses]
  cases shape : decl.shape <;> simp_all

/-- A declaration without a schema meets no cyclic names: it has no uses. -/
theorem cyclic_eq_nil_of_value_eq_none {graph : Declarations} {active : List String}
    {file : FileDeclarations} {decl : TypeDeclaration}
    (unmapped : (shapeSchema graph active file decl).value = none) :
    (shapeSchema graph active file decl).cyclic = [] := by
  rw [shapeSchema_cyclic, uses_eq_nil_of_value_eq_none unmapped]
  rfl

/-! ### Components

What a component adds to working out its declaration: the registrations at the end. -/

section Components

variable {graph : Declarations} {file : FileDeclarations} {decl : TypeDeclaration}

/-- A component is registered under its identifier, and under its name as well if that is cyclic. -/
theorem mem_registrations {name id : String} {schema : Schema} {cyclic : List String}
    {entry : String × Schema} :
    entry ∈ (registrations name id schema cyclic).filterMap Event.registration? ↔
      entry = (id, schema) ∨ (name ∈ cyclic ∧ entry = (name, schema)) := by
  by_cases both : name ∈ cyclic ∧ id ≠ name
  · simp [registrations, both, Event.registration?, or_comm]
  · by_cases member : name ∈ cyclic
    · obtain rfl : id = name := by simpa [member] using both
      simp [registrations, Event.registration?]
    · simp [registrations, member, Event.registration?]

/-- A declaration without a component directive does nothing. -/
theorem component_of_none (plain : decl.docs.componentId? = none) :
    component graph file decl = { value := none } := by
  rw [component, plain]

/-- A component without a schema registers nothing itself. -/
theorem component_of_unmapped {id : String} (declared : decl.docs.componentId? = some id)
    (unmapped : (typeSchema graph file decl).value = none) :
    component graph file decl = typeSchema graph file decl := by
  rw [component, declared]
  dsimp only
  rw [unmapped]

/-- A component with a schema registers it after what its uses register. -/
theorem component_of_mapped {id : String} {schema : Schema}
    (declared : decl.docs.componentId? = some id)
    (value : (typeSchema graph file decl).value = some schema) :
    component graph file decl =
      let made := typeSchema graph file decl
      { value := some schema
        cyclic := made.cyclic.filter (· ≠ decl.name)
        events := made.events ++ registrations decl.name id schema made.cyclic } := by
  rw [component, declared]
  dsimp only
  rw [value]

/-- A declared type has a value as a component if it is one and has a schema. -/
theorem component_value_eq_some {schema : Schema} :
    (component graph file decl).value = some schema ↔
      ∃ id, decl.docs.componentId? = some id ∧
        (typeSchema graph file decl).value = some schema := by
  cases declared : decl.docs.componentId? with
  | none => simp [component_of_none declared]
  | some id =>
      cases value : (typeSchema graph file decl).value with
      | none => simp [component_of_unmapped declared value, value]
      | some made => simp [component_of_mapped declared value]

/-- What a component registers: what its type does, its schema under its identifier, and if the type
    is referred to its schema under its name. -/
theorem mem_registrations_component {entry : String × Schema} :
    entry ∈ (component graph file decl).registrations ↔
      ∃ id schema, decl.docs.componentId? = some id ∧
        (typeSchema graph file decl).value = some schema ∧
          (entry ∈ (typeSchema graph file decl).registrations ∨ entry = (id, schema) ∨
            (decl.name ∈ (typeSchema graph file decl).cyclic ∧ entry = (decl.name, schema))) := by
  cases declared : decl.docs.componentId? with
  | none => simp [component_of_none declared, Outcome.registrations]
  | some id =>
      cases value : (typeSchema graph file decl).value with
      | none =>
          have plain : (typeSchema graph file decl).registrations = [] := by
            rw [typeSchema, shapeSchema_registrations, uses_eq_nil_of_value_eq_none value]
            rfl
          simp [component_of_unmapped declared value, plain]
      | some made =>
          rw [component_of_mapped declared value]
          simp only [Outcome.registrations, List.filterMap_append, List.mem_append,
            mem_registrations]
          simp

end Components

end Generation

end SwaggerDocs
