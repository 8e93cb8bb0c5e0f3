/-
Module: SwaggerDocs.Proofs.Generation.Values
Purpose: The schema of a declaration, as far as it can be read off the declaration alone: all of it but
  what the uses of named types stand for, which is left open. The outcome of a run has this schema, with
  each use standing for what the run makes of it. So two runs agree on a schema if they agree on its
  uses.
Main exports: Generation.contributionBy, Generation.schemaBy, value_shapeSchema, schemaBy_congr
-/
import Mathlib.Data.List.Basic
import SwaggerDocs.Generation.Generator
import SwaggerDocs.Proofs.Entries
import SwaggerDocs.Proofs.Generation.Uses

namespace SwaggerDocs

namespace Generation

/-! ### Schemas with open uses

The schema of a declaration as a function of what its uses stand for. The generator is one way to fill
the uses; a recursion without a context is another. -/

section Open

variable (resolve : Use → Resolution)

/-- The properties that a field of a type contributes. Wrappers around a type pass on everything; items
    of arrays and values of maps are worked out on their own. -/
def contributionBy (name : String) (embedded : Bool) (docs : Documentation) :
    TypeUse → Entries String Schema
  | .primitive kind => single name (primitiveSchema kind) docs
  | .named type =>
      match wellKnownSchema? type with
      | some schema => single name schema docs
      | none => Generator.resolved name docs (resolve ⟨type, embedded⟩)
  | .sequence item =>
      single name (Schema.array
        (onlySchema itemKey (contributionBy itemKey false Documentation.empty item))) docs
  | .mapping value =>
      single name (Schema.map
        (onlySchema itemKey (contributionBy itemKey false Documentation.empty value))) docs
  | .indirect inner => contributionBy name embedded docs inner
  | .any => single name Schema.object docs
  | .unsupported _ => []

/-- What the fields of a struct contribute, in their order. -/
def contributionsBy (fields : List Field) : List (String × Schema) :=
  (fields.filter (·.contributes)).flatMap fun field =>
    contributionBy resolve field.propertyName field.embedded field.docs field.type

/-- The schema of a declaration. Of the properties of one name, the last one counts. -/
def schemaBy (decl : TypeDeclaration) : Option Schema :=
  match decl.shape with
  | .struct fields =>
      some { Schema.object with
        description := decl.docs.text?
        properties := Entries.ofList (contributionsBy resolve fields) }
  | .alias target =>
      let properties := contributionBy resolve decl.name false decl.docs target
      some ((onlySchema decl.name properties).withDescription decl.docs.text?)
  | .enumeration names =>
      some { Schema.primitive "string" none with
        description := decl.docs.text?, enumNames := names }
  | .unmappable _ => none

end Open

/-! ### Schemas depend on their uses

Two ways to fill the uses give the same schema if they agree on the uses that the declaration has. -/

section Congruence

variable {resolve other : Use → Resolution}

/-- A field contributes the same if its use stands for the same. -/
theorem contributionBy_congr (type : TypeUse) (name : String) (embedded : Bool)
    (docs : Documentation) (uses : ∀ use ∈ type.use? embedded, resolve use = other use) :
    contributionBy resolve name embedded docs type = contributionBy other name embedded docs type := by
  induction type generalizing name embedded docs with
  | primitive kind => rfl
  | named type =>
      rw [contributionBy, contributionBy]
      cases known : wellKnownSchema? type with
      | some schema => rfl
      | none =>
          have use := uses _ (TypeUse.use?_named_eq_some.2 ⟨known, rfl⟩)
          exact congrArg (Generator.resolved name docs) use
  | sequence item ih => rw [contributionBy, contributionBy, ih _ _ _ uses]
  | mapping value ih => rw [contributionBy, contributionBy, ih _ _ _ uses]
  | indirect inner ih => exact ih name embedded docs uses
  | any => rfl
  | unsupported kind => rfl

theorem contributionsBy_congr {fields : List Field}
    (uses : ∀ use ∈ fields.filterMap Field.use?, resolve use = other use) :
    contributionsBy resolve fields = contributionsBy other fields := by
  apply List.flatMap_congr
  intro field member
  obtain ⟨listed, contributes⟩ := List.mem_filter.1 member
  apply contributionBy_congr
  intro use used
  apply uses use (List.mem_filterMap.2 ⟨field, listed, ?_⟩)
  rw [Field.use?, if_pos contributes]
  exact used

/-- The schema of a declaration depends on what its uses stand for. -/
theorem schemaBy_congr {decl : TypeDeclaration}
    (uses : ∀ use ∈ decl.uses, resolve use = other use) :
    schemaBy resolve decl = schemaBy other decl := by
  rw [TypeDeclaration.uses] at uses
  rw [schemaBy, schemaBy]
  cases shape : decl.shape with
  | struct fields =>
      rw [shape] at uses
      simp only [contributionsBy_congr uses]
  | «alias» target =>
      rw [shape] at uses
      have same := contributionBy_congr target decl.name false decl.docs
        fun use member => uses use (Option.mem_toList.2 member)
      simp only [same]
  | enumeration names => rfl
  | unmappable reason => rfl

end Congruence

/-! ### Outcomes have these schemas

The values of the generator are of the open form, where a use stands for what its own outcome is. -/

section Outcomes

variable (graph : Declarations) (active : List String) (file : FileDeclarations)

/-- What the uses in a file stand for while some names are active. -/
def standsFor (use : Use) : Resolution := (useOutcome graph active file use).value

/-- The value of a field has the open form, filled with what its use stands for. -/
theorem value_contribution (type : TypeUse) (name : String) (embedded : Bool)
    (docs : Documentation) :
    (contribution graph active file name embedded docs type).value =
      contributionBy (standsFor graph active file) name embedded docs type := by
  induction type generalizing name embedded docs with
  | primitive kind => rw [contribution, contributionBy]
  | named type =>
      rw [contribution, contributionBy]
      cases wellKnownSchema? type with
      | some schema => rfl
      | none =>
          dsimp only
          rw [standsFor, useOutcome]
          cases (namedUse graph active file embedded type).value <;> rfl
  | sequence item ih => rw [contribution, contributionBy, ih]
  | mapping value ih => rw [contribution, contributionBy, ih]
  | indirect inner ih => rw [contribution, contributionBy, ih]
  | any => rw [contribution, contributionBy]
  | unsupported kind => rw [contribution, contributionBy]

/-- The value of the fields of a struct has the open form. The generator extends properties field by
    field, and the open form collects them all first. -/
theorem value_fieldProperties (fields : List Field) (properties : Entries String Schema) :
    (fieldProperties graph active file properties fields).value =
      properties.extend (contributionsBy (standsFor graph active file) fields) := by
  induction fields generalizing properties with
  | nil =>
      rw [fieldProperties]
      rfl
  | cons field rest ih =>
      rw [fieldProperties, contributionsBy]
      split
      · rename_i contributes
        simp only [ih, value_contribution]
        rw [List.filter_cons_of_pos contributes, List.flatMap_cons, Entries.extend_append,
          contributionsBy]
      · rename_i hidden
        rw [ih, List.filter_cons_of_neg hidden, contributionsBy]

/-- A run comes to the schema in which each use stands for what the run makes of it. -/
theorem value_shapeSchema (decl : TypeDeclaration) :
    (shapeSchema graph active file decl).value = schemaBy (standsFor graph active file) decl := by
  rw [shapeSchema, schemaBy]
  cases decl.shape with
  | struct fields => simp only [value_fieldProperties, Entries.ofList]
  | «alias» target => simp only [value_contribution]
  | enumeration names => rfl
  | unmappable reason => rfl

end Outcomes

end Generation

end SwaggerDocs
