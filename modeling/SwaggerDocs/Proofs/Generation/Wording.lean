/-
Module: SwaggerDocs.Proofs.Generation.Wording
Purpose: Declarations that differ in the wording of their documentation only: the free text is the same,
  and the readers of directives accept the same in the same order. Documentation is used in many places,
  but none of them sees more than this. So names are looked up alike, types are worked out to the same
  values with the same registrations and warnings, and the document is the same.
Main exports: Documentation.ReadsAs, Declarations.ReadsAs, find?_rel, ReadsAs.findType?_rel,
  shapeSchema_eq_of_readsAs, component_eq_of_readsAs, ReadsAs.generateAll_eq, ReadsAs.info?_eq,
  ReadsAs.bindAll_eq, Built.document_eq_of_readsAs
-/
import Mathlib.Data.List.Forall2
import SwaggerDocs.Generation.Build
import SwaggerDocs.Proofs.Generation.Simulation

namespace SwaggerDocs

open Generation

/-! ### Documentation

All that the generators take from a documentation block: its text, and the directives that each of the
readers finds in it. -/

/-- The identifier that a directive declares. -/
def SchemaDirective.componentId? : SchemaDirective → Option String
  | .component id => some id
  | .example _ | .format _ | .default _ => none

namespace Documentation

/-- The identifier of a component is read off the accepted directives. -/
theorem componentId?_eq_getLast? (docs : Documentation) :
    docs.componentId? = ((docs.lines.filterMap Directive.parseSchema?).filterMap
      SchemaDirective.componentId?).getLast? := by
  rw [componentId?, List.filterMap_filterMap]
  congr 1
  apply List.filterMap_congr
  intro line _
  cases Directive.parseSchema? line with
  | none => rfl
  | some directive => cases directive <;> rfl

/-- Two blocks with the same free text, in which the readers of directives accept the same. -/
structure ReadsAs (docs other : Documentation) : Prop where
  text : docs.text = other.text
  spec : docs.lines.filterMap Directive.parseSpec? = other.lines.filterMap Directive.parseSpec?
  schema : docs.lines.filterMap Directive.parseSchema? = other.lines.filterMap Directive.parseSchema?
  operations : operationDirectives docs = operationDirectives other
  bindings : bindings docs = bindings other

namespace ReadsAs

theorem refl (docs : Documentation) : docs.ReadsAs docs := ⟨rfl, rfl, rfl, rfl, rfl⟩

variable {docs other third : Documentation} (alike : docs.ReadsAs other)
include alike

/-- Reading alike does not depend on which block comes first. -/
theorem symm : other.ReadsAs docs :=
  ⟨alike.text.symm, alike.spec.symm, alike.schema.symm, alike.operations.symm, alike.bindings.symm⟩

/-- Reading alike can be shown in steps. -/
theorem trans (next : other.ReadsAs third) : docs.ReadsAs third :=
  ⟨alike.text.trans next.text, alike.spec.trans next.spec, alike.schema.trans next.schema,
    alike.operations.trans next.operations, alike.bindings.trans next.bindings⟩

/-- Blocks that read alike have the same description, or both none. -/
theorem text?_eq : docs.text? = other.text? := by
  rw [text?, text?, alike.text]

theorem componentId?_eq : docs.componentId? = other.componentId? := by
  rw [componentId?_eq_getLast?, componentId?_eq_getLast?, alike.schema]

theorem derive?_eq : Info.derive? docs = Info.derive? other := by
  have version : docs.version? = other.version? := by
    rw [version?, version?, ← List.map_filterMap, ← List.map_filterMap, alike.spec]
  rw [Info.derive?, Info.derive?, alike.text, version]

theorem applyDocs_eq (schema : Schema) : applyDocs schema docs = applyDocs schema other := by
  rw [applyDocs, applyDocs, alike.text?_eq, alike.schema]

theorem single_eq (name : String) (schema : Schema) :
    single name schema docs = single name schema other := by
  rw [single, single, alike.applyDocs_eq]

end ReadsAs

end Documentation

/-! ### Declarations

Declarations that differ in nothing but the wording of their documentation. Paths, names and types are
the same, so that a name is looked up in the same place. -/

/-- The field with other documentation, which reads alike. -/
def Field.ReadsAs (field other : Field) : Prop :=
  ∃ docs, field.docs.ReadsAs docs ∧ other = { field with docs := docs }

/-- Two shapes that differ at most in the documentation of fields, which reads alike. -/
inductive Shape.ReadsAs : Shape → Shape → Prop where
  | struct {fields others : List Field} (alike : List.Forall₂ Field.ReadsAs fields others) :
      ReadsAs (.struct fields) (.struct others)
  | alias (target : TypeUse) : ReadsAs (.alias target) (.alias target)
  | enumeration (names : List String) : ReadsAs (.enumeration names) (.enumeration names)
  | unmappable (reason : String) : ReadsAs (.unmappable reason) (.unmappable reason)

/-- The type with other documentation of itself and its fields, which reads alike. -/
structure TypeDeclaration.ReadsAs (decl other : TypeDeclaration) : Prop where
  name : decl.name = other.name
  docs : decl.docs.ReadsAs other.docs
  shape : decl.shape.ReadsAs other.shape

/-- The function with other documentation, which reads alike. -/
def FunctionDeclaration.ReadsAs (function other : FunctionDeclaration) : Prop :=
  ∃ docs, function.docs.ReadsAs docs ∧ other = { function with docs := docs }

/-- The file with other documentation of itself and its declarations, which reads alike. -/
structure FileDeclarations.ReadsAs (file other : FileDeclarations) : Prop where
  path : file.path = other.path
  docs : file.docs.ReadsAs other.docs
  types : List.Forall₂ TypeDeclaration.ReadsAs file.types other.types
  functions : List.Forall₂ FunctionDeclaration.ReadsAs file.functions other.functions

/-- The same declarations with other documentation, which reads alike. -/
def Declarations.ReadsAs (graph other : Declarations) : Prop :=
  List.Forall₂ FileDeclarations.ReadsAs graph.files other.files

theorem Field.ReadsAs.refl (field : Field) : field.ReadsAs field :=
  ⟨field.docs, .refl field.docs, rfl⟩

theorem Shape.ReadsAs.refl (shape : Shape) : shape.ReadsAs shape := by
  cases shape with
  | struct fields => exact .struct (List.forall₂_same.2 fun field _ => .refl field)
  | «alias» target => exact .alias target
  | enumeration names => exact .enumeration names
  | unmappable reason => exact .unmappable reason

theorem TypeDeclaration.ReadsAs.refl (decl : TypeDeclaration) : decl.ReadsAs decl :=
  ⟨rfl, .refl decl.docs, .refl decl.shape⟩

theorem FunctionDeclaration.ReadsAs.refl (function : FunctionDeclaration) :
    function.ReadsAs function :=
  ⟨function.docs, .refl function.docs, rfl⟩

theorem FileDeclarations.ReadsAs.refl (file : FileDeclarations) : file.ReadsAs file where
  path := rfl
  docs := .refl file.docs
  types := List.forall₂_same.2 fun decl _ => .refl decl
  functions := List.forall₂_same.2 fun function _ => .refl function

/-! ### Names

Looking up a name does not read documentation, and so it finds the corresponding type. -/

/-- Two declared types that read alike, in files of the same path. -/
structure PlacesAlike (place other : FileDeclarations × TypeDeclaration) : Prop where
  path : place.1.path = other.1.path
  decl : place.2.ReadsAs other.2

/-- Searches through related lists find related items, if the items are tested alike. -/
theorem find?_rel {α β : Type} {R : α → β → Prop} {p : α → Bool} {q : β → Bool} {items : List α}
    {others : List β} (alike : List.Forall₂ R items others) (tested : ∀ a b, R a b → p a = q b) :
    Option.Rel R (items.find? p) (others.find? q) := by
  induction alike with
  | nil => exact .none
  | @cons a b _ _ same _ ih =>
      rw [List.find?_cons, List.find?_cons, ← tested a b same]
      cases p a with
      | true => exact .some same
      | false => exact ih

/-- Within files that read alike, a name stands for types that read alike. -/
theorem FileDeclarations.ReadsAs.typeNamed?_rel {file other : FileDeclarations}
    (alike : file.ReadsAs other) (name : String) :
    Option.Rel TypeDeclaration.ReadsAs (file.typeNamed? name) (other.typeNamed? name) := by
  apply find?_rel alike.types
  intro decl decl' same
  rw [same.name]

namespace Declarations

/-- Where files are searched in order, a name stands for types that read alike. -/
theorem firstNamed?_rel {files others : List FileDeclarations}
    (alike : List.Forall₂ FileDeclarations.ReadsAs files others) (name : String) :
    Option.Rel PlacesAlike (firstNamed? name files) (firstNamed? name others) := by
  induction alike with
  | nil => exact .none
  | @cons file other _ _ same _ ih =>
      have here := same.typeNamed?_rel name
      rw [firstNamed?, firstNamed?]
      generalize file.typeNamed? name = found, other.typeNamed? name = found' at here ⊢
      cases here with
      | none => exact ih
      | some decl => exact .some ⟨same.path, decl⟩

variable {graph other : Declarations}

/-- A name stands for types that read alike, or for none in both. -/
theorem ReadsAs.findType?_rel (alike : graph.ReadsAs other) (name : String) (usedIn : Path) :
    Option.Rel PlacesAlike (graph.findType? name usedIn) (other.findType? name usedIn) := by
  have near : List.Forall₂ FileDeclarations.ReadsAs
      (graph.files.filter fun file => file.path.same usedIn)
      (other.files.filter fun file => file.path.same usedIn) := by
    refine List.rel_filter ?_ alike
    intro file file' same
    simp only [same.path]
  have first := firstNamed?_rel near name
  rw [findType?, findType?]
  generalize firstNamed? name (graph.files.filter _) = found,
    firstNamed? name (other.files.filter _) = found' at first ⊢
  cases first with
  | none => exact firstNamed?_rel alike name
  | some found => exact .some found

/-- The types of both sets of declarations come in the same order and read alike. -/
theorem ReadsAs.placedTypes_rel (alike : graph.ReadsAs other) :
    List.Forall₂ PlacesAlike graph.placedTypes other.placedTypes := by
  refine List.rel_flatMap alike ?_
  intro file file' same
  refine List.rel_map ?_ same.types
  intro decl decl' declared
  exact ⟨same.path, declared⟩

end Declarations

/-! ### Types

The induction is on how many names are not active. Each use of a type adds a name, and the types that
correspond to each other have the same name. -/

namespace Generation

section Uses

variable {graph other : Declarations} {active : List String} {file file' : FileDeclarations}

/-- A field contributes the same if the types that it uses come to the same. -/
theorem contribution_eq_of_readsAs {docs docs' : Documentation} (alike : docs.ReadsAs docs')
    (name : String) {embedded : Bool} {type : TypeUse}
    (same : ∀ use ∈ type.use? embedded,
      useOutcome graph active file use = useOutcome other active file' use) :
    contribution graph active file name embedded docs type =
      contribution other active file' name embedded docs' type := by
  induction type generalizing name embedded docs docs' with
  | named type =>
      rw [contribution, contribution]
      cases known : wellKnownSchema? type with
      | some schema => simp only [alike.single_eq]
      | none =>
          have used := same _ (TypeUse.use?_named_eq_some.2 ⟨known, rfl⟩)
          simp only [useOutcome] at used
          simp only [used, alike.single_eq]
  | sequence item ih =>
      rw [contribution, contribution, ih (.refl .empty) itemKey same, alike.single_eq]
  | mapping value ih =>
      rw [contribution, contribution, ih (.refl .empty) itemKey same, alike.single_eq]
  | indirect inner ih =>
      rw [contribution, contribution]
      exact ih alike name same
  | primitive kind => rw [contribution, contribution, alike.single_eq]
  | any => rw [contribution, contribution, alike.single_eq]
  | unsupported kind => rw [contribution, contribution]

/-- The fields of a struct contribute the same, whatever properties were there before. -/
theorem fieldProperties_eq_of_readsAs {fields others : List Field}
    (alike : List.Forall₂ Field.ReadsAs fields others)
    (same : ∀ use ∈ fields.filterMap Field.use?,
      useOutcome graph active file use = useOutcome other active file' use)
    (properties : Entries String Schema) :
    fieldProperties graph active file properties fields =
      fieldProperties other active file' properties others := by
  induction alike generalizing properties with
  | nil => rw [fieldProperties, fieldProperties]
  | @cons field _ rest others reworded _ ih =>
      obtain ⟨docs, alike, rfl⟩ := reworded
      rw [filterMap_cons_eq] at same
      have first (contributes : field.contributes = true) :=
        contribution_eq_of_readsAs alike field.propertyName fun use used =>
          same use (List.mem_append_left _ (by rwa [Field.use?, if_pos contributes, Option.mem_toList]))
      have later := ih fun use used => same use (List.mem_append_right _ used)
      have kept : ({ field with docs := docs } : Field).contributes = field.contributes := rfl
      have named : ({ field with docs := docs } : Field).propertyName = field.propertyName := rfl
      rw [fieldProperties, fieldProperties, kept, named]
      cases contributes : field.contributes with
      | true => simp only [if_true, first contributes, later]
      | false => simp only [Bool.false_eq_true, if_false, later]

/-- A type has the same schema if the types that it uses come to the same. -/
theorem shapeSchema_eq_of_uses {decl decl' : TypeDeclaration} (alike : decl.ReadsAs decl')
    (same : ∀ use ∈ decl.uses, useOutcome graph active file use = useOutcome other active file' use) :
    shapeSchema graph active file decl = shapeSchema other active file' decl' := by
  obtain ⟨name, docs, shape⟩ := decl
  obtain ⟨name', docs', shape'⟩ := decl'
  obtain ⟨rfl, reworded, shaped⟩ := alike
  rw [shapeSchema, shapeSchema]
  cases shaped with
  | struct fields =>
      simp only [fieldProperties_eq_of_readsAs fields same, reworded.text?_eq]
  | «alias» target =>
      have made := contribution_eq_of_readsAs reworded name fun use used =>
        same use (Option.mem_toList.2 used)
      simp only [made, reworded.text?_eq]
  | enumeration names => simp only [reworded.text?_eq]
  | unmappable reason => rfl

/-- A use comes to the same in both if its target is worked out alike. -/
theorem useOutcome_eq_of_readsAs (alike : graph.ReadsAs other) (path : file.path = file'.path)
    {use : Use}
    (targets : ∀ place, graph.findType? use.type.name file.path = some place →
      place.2.name ∉ active → ∀ place', PlacesAlike place place' →
        shapeSchema graph (place.2.name :: active) place.1 place.2 =
          shapeSchema other (place.2.name :: active) place'.1 place'.2) :
    useOutcome graph active file use = useOutcome other active file' use := by
  have reworded := alike.findType?_rel use.type.name file.path
  rw [useOutcome, useOutcome]
  generalize found : graph.findType? use.type.name file.path = place,
    found' : other.findType? use.type.name file.path = place' at reworded
  rw [path] at found'
  cases reworded with
  | none => rw [namedUse_of_missing found, namedUse_of_missing found', path]
  | @some place place' same =>
      have name : place'.2.name = place.2.name := same.decl.name.symm
      by_cases busy : place.2.name ∈ active
      · rw [namedUse_of_active found busy, namedUse_of_active found' (name ▸ busy), name]
      · rw [namedUse_of_fresh found busy, namedUse_of_fresh found' (name ▸ busy), name,
          targets place found busy place' same]

end Uses

variable {graph other : Declarations}

/-- Types that read alike are worked out alike. -/
theorem shapeSchema_eq_of_readsAs (alike : graph.ReadsAs other) (active : List String)
    {file file' : FileDeclarations} (path : file.path = file'.path) {decl decl' : TypeDeclaration}
    (reworded : decl.ReadsAs decl') :
    shapeSchema graph active file decl = shapeSchema other active file' decl' := by
  induction active, file, decl using uses_induction graph generalizing file' decl' with
  | step active file decl ih =>
      -- The uses are those of the first declaration; the second one has the same.
      apply shapeSchema_eq_of_uses reworded
      intro use used
      apply useOutcome_eq_of_readsAs alike path
      intro place found fresh place' same
      exact ih use used place.1 place.2 found fresh same.path same.decl

/-- A component registers the same under the same identifier. -/
theorem component_eq_of_readsAs (alike : graph.ReadsAs other)
    {place place' : FileDeclarations × TypeDeclaration} (same : PlacesAlike place place') :
    component graph place.1 place.2 = component other place'.1 place'.2 := by
  rw [component, component, typeSchema, typeSchema, same.decl.docs.componentId?_eq, ← same.decl.name,
    shapeSchema_eq_of_readsAs alike _ same.path same.decl]

end Generation

/-! ### Documents

What holds of each declaration holds of the document that is made of them. -/

namespace Declarations.ReadsAs

variable {graph other : Declarations} (alike : graph.ReadsAs other)
include alike

/-- The runs of the generator of schemas end in the same context. -/
theorem generateAll_eq (policy : RegistrationPolicy) :
    Generator.generateAll graph policy = Generator.generateAll other policy := by
  rw [Generator.generateAll_eq_replay, Generator.generateAll_eq_replay]
  congr 1
  rw [← List.forall₂_eq_eq_eq]
  refine List.rel_flatMap alike.placedTypes_rel ?_
  intro place place' same
  simp only [List.forall₂_eq_eq_eq, component_eq_of_readsAs alike same]

/-- Declarations that read alike have the same info block: in both, the last file that describes one
    decides. -/
theorem info?_eq : graph.info? = other.info? := by
  rw [info?, info?]
  congr 1
  rw [← List.forall₂_eq_eq_eq]
  refine List.rel_filterMap ?_ alike
  intro file file' same
  simp only [same.docs.derive?_eq]
  cases Info.derive? file'.docs with
  | none => exact .none
  | some info => exact .some rfl

theorem bindAll_eq (files : ExampleFiles) (paths : Paths) :
    bindAll files graph paths = bindAll files other paths := by
  rw [bindAll, bindAll]
  refine List.rel_foldl ?_ rfl alike
  rintro paths _ rfl file file' same
  refine List.rel_foldl ?_ rfl same.functions
  rintro paths _ rfl function _ ⟨docs, reworded, rfl⟩
  rw [bindFunction, bindFunction, same.path]
  simp only [buildOperation, reworded.bindings, reworded.operations, reworded.text?_eq]

end Declarations.ReadsAs

namespace Built

/-- Declarations that read alike have the same document. -/
theorem document_eq_of_readsAs {graph other : Declarations} (alike : graph.ReadsAs other)
    (policy : RegistrationPolicy) (files : ExampleFiles) :
    (ofDeclarations policy files graph).document = (ofDeclarations policy files other).document := by
  rw [ofDeclarations, ofDeclarations]
  simp only [alike.generateAll_eq, alike.info?_eq, alike.bindAll_eq]

end Built

end SwaggerDocs
