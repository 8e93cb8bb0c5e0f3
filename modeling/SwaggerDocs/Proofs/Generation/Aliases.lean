/-
Module: SwaggerDocs.Proofs.Generation.Aliases
Purpose: Embedded fields whose types lead through wrappers and aliases to a struct. Wrappers are seen
  through: the field contributes the properties of the struct, as if it named the struct itself. An alias
  is not: its schema is a reference to what it stands for, which has no properties to splice, so the
  field contributes that reference under its own name.
Main exports: Declarations.Leads, contribution_of_struct, contribution_of_alias, Occurs.fresh_of_acyclic,
  Generator.splices_up_to_aliases, Generator.refers_past_alias
-/
import SwaggerDocs.Proofs.Generation.Forms
import SwaggerDocs.Proofs.Generation.Guard

namespace SwaggerDocs

open Generation

namespace Declarations

/-- A type that is used in a file leads through wrappers and aliases to a declaration. The aliases on the
    way are listed from the first one on. -/
inductive Leads (graph : Declarations) :
    FileDeclarations → TypeUse → List Place → Place → Prop where
  | declared {file : FileDeclarations} {type : TypeName} {target : Place}
      (unknown : wellKnownSchema? type = none)
      (found : graph.findType? type.name file.path = some target) :
      Leads graph file (.named type) [] target
  | indirect {file : FileDeclarations} {type : TypeUse} {aliases : List Place} {target : Place}
      (inner : Leads graph file type aliases target) :
      Leads graph file (.indirect type) aliases target
  | «alias» {file : FileDeclarations} {type : TypeName} {place : Place} {aliased : TypeUse}
      {aliases : List Place} {target : Place} (unknown : wellKnownSchema? type = none)
      (found : graph.findType? type.name file.path = some place)
      (shape : place.2.shape = .alias aliased) (rest : Leads graph place.1 aliased aliases target) :
      Leads graph file (.named type) (place :: aliases) target

namespace Leads

variable {graph : Declarations} {file : FileDeclarations} {type : TypeUse} {aliases : List Place}
  {target : Place}

/-- A type that leads on is a use of the first declaration on the way. -/
theorem resolves (leads : graph.Leads file type aliases target) (embedded : Bool) :
    ∃ named : TypeName, type.use? embedded = some ⟨named, embedded⟩ ∧
      graph.findType? named.name file.path = some (aliases.headD target) := by
  induction leads with
  | @declared file named target unknown found =>
      exact ⟨named, TypeUse.use?_named_eq_some.2 ⟨unknown, rfl⟩, found⟩
  | indirect inner ih => exact ih
  | @«alias» file named place aliased aliases target unknown found shape rest ih =>
      exact ⟨named, TypeUse.use?_named_eq_some.2 ⟨unknown, rfl⟩, found⟩

/-- What a first alias stands for leads on to the rest of the way. -/
theorem of_alias {first : Place} {rest : List Place}
    (leads : graph.Leads file type (first :: rest) target) :
    ∃ aliased, first.2.shape = .alias aliased ∧ graph.Leads first.1 aliased rest target := by
  generalize whole : first :: rest = aliases at leads
  induction leads with
  | declared unknown found => cases whole
  | indirect inner ih => exact ih whole
  | «alias» unknown found shape later ih =>
      cases whole
      exact ⟨_, shape, later⟩

/-- The first declaration on the way has a schema, as an alias or as the end of the way. -/
theorem mappable (leads : graph.Leads file type aliases target)
    (mappable : target.2.mappable = true) : (aliases.headD target).2.mappable = true := by
  cases aliases with
  | nil => exact mappable
  | cons first rest =>
      obtain ⟨aliased, shape, _⟩ := leads.of_alias
      rw [List.headD_cons, TypeDeclaration.mappable, shape]

end Leads

/-- No chain of uses comes back to where it started if uses lead to types of lower rank. -/
theorem acyclic_of_rank {graph : Declarations} (rank : String → Nat)
    (descends : ∀ source ∈ graph.placedTypes, ∀ use ∈ source.2.uses,
      ∀ target ∈ graph.findType? use.type.name source.1.path,
        rank target.2.name < rank source.2.name)
    (place : Place) : ¬Relation.TransGen graph.Uses place place := by
  intro cycle
  obtain ⟨last, before, closes⟩ := Relation.TransGen.tail'_iff.1 cycle
  obtain ⟨use, used, found⟩ := closes
  have placed := mem_placedTypes_of_findType? found
  have level := fun source placed use used target found =>
    Nat.le_of_lt (descends source placed use used target found)
  have up := Reaches.rank_le rank level before placed
  have down := descends last (Reaches.mem_placedTypes before placed) use used place found
  exact Nat.lt_irrefl _ (Nat.lt_of_lt_of_le down up)

end Declarations

namespace Generation

/-- A lone schema is the one that its key holds, with its documentation. -/
@[simp] theorem onlySchema_single (name : String) (schema : Schema) (docs : Documentation) :
    onlySchema name (single name schema docs) = applyDocs schema docs := by
  simp [onlySchema, single, Entries.find?]

end Generation

namespace Generator

variable {graph : Declarations} {file : FileDeclarations} {ctx : Context} {type : TypeUse}
  {aliases : List Place} {target : Place}

/-- A use that is not flattened stands for a reference, whether its target is active or not. -/
theorem namedUse_refers {named : TypeName}
    (found : graph.findType? named.name file.path = some target)
    (mappable : target.2.mappable = true) :
    (namedUse graph file false named ctx).answer = .schema (Schema.referTo target.2.name) := by
  by_cases busy : target.2.name ∈ ctx.active
  · rw [namedUse_of_active false found busy]
    rfl
  · rw [(namedUse_of_fresh false found busy).1]
    rw [← isSome_typeSchema graph target.1 target.2 ctx] at mappable
    obtain ⟨schema, worked⟩ := Option.isSome_iff_exists.1 mappable
    rw [worked]
    rfl

/-- A field that is not embedded refers to the first declaration that its type leads to. -/
theorem contribution_refers (leads : graph.Leads file type aliases target)
    (mappable : target.2.mappable = true) (name : String) (docs : Documentation) :
    (contribution graph file name false docs type ctx).answer =
      single name (Schema.referTo (aliases.headD target).2.name) docs := by
  have first := leads.mappable mappable
  induction leads with
  | declared unknown found =>
      rw [contribution]
      simp only [unknown, namedUse_refers found first, resolved]
      rfl
  | indirect inner ih =>
      rw [contribution]
      exact ih mappable first
  | «alias» unknown found shape rest ih =>
      rw [contribution]
      simp only [unknown, namedUse_refers found first, resolved]
      rfl

/-- An alias has a reference to what it stands for as its schema. -/
theorem reference_of_alias {first : Place} {aliased : TypeUse}
    (shape : first.2.shape = .alias aliased) (leads : graph.Leads first.1 aliased aliases target)
    (mappable : target.2.mappable = true) :
    ∃ schema, (typeSchema graph first.1 first.2 ctx).answer = some schema ∧
      schema.reference = (Schema.referTo (aliases.headD target).2.name).reference := by
  refine ⟨(applyDocs (Schema.referTo (aliases.headD target).2.name) first.2.docs).withDescription
    first.2.docs.text?, ?_, reference_applyDocs _ _⟩
  rw [answer_typeSchema, shapeSchema, shape]
  simp only [contribution_refers leads mappable, onlySchema_single]

/-- An embedded field whose type leads to a struct through wrappers alone contributes its properties. -/
theorem contribution_of_struct (leads : graph.Leads file type [] target)
    (fresh : target.2.name ∉ ctx.active) {fields : List Field}
    (struct : target.2.shape = .struct fields) (name : String) (docs : Documentation) :
    ∃ schema, (typeSchema graph target.1 target.2 ctx).answer = some schema ∧
      (contribution graph file name true docs type ctx).answer = schema.properties := by
  obtain ⟨named, resolves, found⟩ := leads.resolves true
  obtain ⟨answer, _⟩ := @contribution_of_flattened graph file ctx _ _ type resolves rfl name docs
  obtain ⟨schema, worked, spliced⟩ := splices_of_fresh found fresh struct
  refine ⟨schema, worked, ?_⟩
  rw [answer, spliced]
  rfl

/-- An embedded field whose type leads to an alias contributes one property of its own name, which
    refers to what the alias stands for. -/
theorem contribution_of_alias {first : Place} {rest : List Place}
    (leads : graph.Leads file type (first :: rest) target) (fresh : first.2.name ∉ ctx.active)
    (mappable : target.2.mappable = true) (name : String) (docs : Documentation) :
    ∃ schema, (contribution graph file name true docs type ctx).answer = [(name, schema)] ∧
      schema.referenceTarget? = some (rest.headD target).2.name := by
  obtain ⟨named, resolves, found⟩ := leads.resolves true
  obtain ⟨answer, _⟩ := @contribution_of_flattened graph file ctx _ _ type resolves rfl name docs
  obtain ⟨aliased, shape, later⟩ := leads.of_alias
  obtain ⟨schema, worked, refers⟩ := @reference_of_alias graph ctx rest target first aliased shape
    later mappable
  have plain : schema.isObject = false := by
    rw [Schema.isObject, refers]
    exact Bool.and_false _
  have stands : (namedUse graph file true named ctx).answer = .schema schema := by
    rw [(namedUse_of_fresh true found fresh).1]
    simp only [worked, settle, plain, if_true, Bool.false_eq_true, if_false]
  refine ⟨applyDocs schema docs, ?_, ?_⟩
  · rw [answer, stands]
    rfl
  · rw [Schema.referenceTarget?, reference_applyDocs, refers, ← Schema.referenceTarget?,
      Schema.referenceTarget?_referTo]

/-- Where names are distinct and no chain of uses comes back, the type of a field is not active when the
    field is worked out. -/
theorem Occurs.fresh_of_acyclic {policy : RegistrationPolicy} {place : Place}
    {outside : List Place} {name : String} {embedded : Bool} {docs : Documentation}
    (occurs : Occurs graph policy place outside (.contribution file name embedded docs type, ctx))
    (distinct : graph.DistinctNames) (acyclic : ∀ place, ¬Relation.TransGen graph.Uses place place)
    {use : Use} (resolves : type.use? embedded = some use)
    (found : graph.findType? use.type.name file.path = some target) :
    target.2.name ∉ ctx.active := by
  intro busy
  have active : ctx.active = (place :: outside).map (·.2.name) := occurs.working_eq
  rw [active] at busy
  obtain ⟨around, listed, same⟩ := List.mem_map.1 busy
  obtain ⟨used, foundThere⟩ := occurs.uses_of_found (Option.mem_toList.2 resolves) found
  have uses : graph.Uses place target := ⟨use, used, foundThere⟩
  have placed := Declarations.mem_placedTypes_of_findType? foundThere
  obtain rfl := distinct.eq_of_name_eq (occurs.placed around listed) placed same
  rcases List.mem_cons.1 listed with rfl | outer
  · exact acyclic around (Relation.TransGen.single uses)
  · exact acyclic around ((occurs.used around outer).tail uses)

/-- Where names are distinct and no chain of uses comes back, an embedded field that leads to a struct
    through wrappers alone contributes exactly the properties of the struct, as if it named the struct
    itself. If there are aliases on the way, it contributes one property of its own name, which refers to
    what the first alias stands for. -/
theorem splices_up_to_aliases (graph : Declarations)
    (distinct : (graph.types.map (·.name)).Nodup)
    (acyclic : ∀ place, ¬Relation.TransGen graph.Uses place place) (policy : RegistrationPolicy)
    {place : Place} {outside : List Place} {file : FileDeclarations} {name : String}
    {docs : Documentation} {type : TypeUse} {ctx : Context}
    (occurs : Occurs graph policy place outside (.contribution file name true docs type, ctx))
    {aliases : List Place} {target : Place} (leads : graph.Leads file type aliases target)
    {fields : List Field} (struct : target.2.shape = .struct fields) :
    let made := contribution graph file name true docs type ctx
    (aliases = [] →
      (∃ schema, (typeSchema graph target.1 target.2 ctx).answer = some schema ∧
        made.answer = schema.properties) ∧
      ∀ direct : TypeName, direct.name = target.2.name → wellKnownSchema? direct = none →
        (contribution graph file name true docs (.named direct) ctx).answer = made.answer) ∧
    ∀ first rest, aliases = first :: rest →
      ∃ schema, made.answer = [(name, schema)] ∧
        schema.referenceTarget? = some (rest.headD target).2.name := by
  intro made
  obtain ⟨named, resolves, found⟩ := leads.resolves true
  have fresh := occurs.fresh_of_acyclic distinct acyclic resolves found
  constructor
  · rintro rfl
    obtain ⟨schema, worked, spliced⟩ := contribution_of_struct leads fresh struct name docs
    refine ⟨⟨schema, worked, spliced⟩, ?_⟩
    intro direct sameName unknown
    obtain ⟨_, _, ownName⟩ := Declarations.findType?_mem found
    have foundDirect : graph.findType? direct.name file.path = some target := by
      rw [sameName, show target.2.name = named.name from ownName]
      exact found
    obtain ⟨other, workedToo, splicedToo⟩ := contribution_of_struct
      (Declarations.Leads.declared unknown foundDirect) fresh struct name docs
    cases worked.symm.trans workedToo
    exact splicedToo.trans spliced.symm
  · rintro first rest rfl
    have mappable : target.2.mappable = true := by rw [TypeDeclaration.mappable, struct]
    exact contribution_of_alias leads fresh mappable name docs

/-! ### An alias between a field and a struct

One component splices a struct through a wrapper. Another one does so through an alias; it gets a
property of the field's name instead, which refers to the struct. -/

/-- A component that splices a struct through a wrapper. -/
def wrappingOuter : TypeDeclaration where
  name := "Wrapping"
  docs := ⟨["openapi:component schema Wrapping"]⟩
  shape := .struct [⟨"inner", true, true, none, .indirect (.named ⟨"Inner", []⟩), .empty⟩]

/-- A component that splices a struct through an alias. -/
def aliasingOuter : TypeDeclaration where
  name := "Aliasing"
  docs := ⟨["openapi:component schema Aliasing"]⟩
  shape := .struct [⟨"inner", true, true, none, .named ⟨"Shown", []⟩, .empty⟩]

/-- The alias. -/
def shownAlias : TypeDeclaration where
  name := "Shown"
  docs := .empty
  shape := .alias (.named ⟨"Inner", []⟩)

/-- The struct, which is a component as well. -/
def innerStruct : TypeDeclaration where
  name := "Inner"
  docs := ⟨["openapi:component schema Inner"]⟩
  shape := .struct [⟨"y", true, false, none, .primitive .bool, .empty⟩]

/-- The file of these types. -/
def aliasFile : FileDeclarations where
  path := ⟨"alias.rs"⟩
  docs := .empty
  types := [aliasingOuter, wrappingOuter, shownAlias, innerStruct]
  functions := []

/-- The declarations of the file. -/
def aliasGraph : Declarations := ⟨[aliasFile]⟩

/-- Uses lead from the components to the alias and from there to the struct. -/
theorem acyclic_aliasGraph : ∀ place, ¬Relation.TransGen aliasGraph.Uses place place := by
  apply Declarations.acyclic_of_rank fun name =>
    if name = "Inner" then 0 else if name = "Shown" then 1 else 2
  decide +kernel

theorem findType?_innerStruct :
    aliasGraph.findType? "Inner" aliasFile.path = some (aliasFile, innerStruct) := by
  rfl

theorem unknown_innerStruct : wellKnownSchema? ⟨"Inner", []⟩ = none := by rfl

/-- The struct has one property, whatever is being worked out. -/
theorem typeSchema_innerStruct (ctx : Context) :
    (typeSchema aliasGraph aliasFile innerStruct ctx).answer =
      some { Schema.object with properties := [("y", Schema.primitive "boolean" none)] } := by
  have text : innerStruct.docs.text? = none := by rfl
  have plain : Documentation.empty.text? = none := by rfl
  rw [answer_typeSchema, shapeSchema]
  simp only [text]
  simp only [innerStruct, fieldProperties, contribution, Field.contributes, Bool.true_or, if_true,
    single, applyDocs, plain]
  rfl

/-- The wrapper is seen through: its component gets the property of the struct. -/
theorem splices_up_to_aliases_wrapped :
    (aliasGraph.types.map (·.name)).Nodup ∧
      (∀ place, ¬Relation.TransGen aliasGraph.Uses place place) ∧
      ∃ ctx, Occurs aliasGraph .firstWins (aliasFile, wrappingOuter) []
          (.contribution aliasFile "inner" true .empty (.indirect (.named ⟨"Inner", []⟩)), ctx) ∧
        (contribution aliasGraph aliasFile "inner" true .empty (.indirect (.named ⟨"Inner", []⟩))
          ctx).answer = [("y", Schema.primitive "boolean" none)] := by
  have distinct : (aliasGraph.types.map (·.name)).Nodup := by decide
  have component := @Occurs.start aliasGraph .firstWins [(aliasFile, aliasingOuter)]
    [(aliasFile, shownAlias), (aliasFile, innerStruct)] (aliasFile, wrappingOuter) rfl
    (by decide +kernel)
  have field := component.first_field rfl rfl
  have leads : aliasGraph.Leads aliasFile (.indirect (.named ⟨"Inner", []⟩)) []
      (aliasFile, innerStruct) := .indirect (.declared unknown_innerStruct findType?_innerStruct)
  obtain ⟨wrapped, _⟩ :=
    splices_up_to_aliases aliasGraph distinct acyclic_aliasGraph .firstWins field leads rfl
  obtain ⟨⟨schema, worked, spliced⟩, _⟩ := wrapped rfl
  cases (typeSchema_innerStruct _).symm.trans worked
  exact ⟨distinct, acyclic_aliasGraph, _, field, spliced⟩

/-- The alias is not seen through: names are distinct, no chain of uses comes back, and the type of the
    embedded field leads through one alias to the struct; but the field contributes a reference under
    its own name, while it would contribute the property of the struct if it named that itself. -/
theorem refers_past_alias :
    (aliasGraph.types.map (·.name)).Nodup ∧
      (∀ place, ¬Relation.TransGen aliasGraph.Uses place place) ∧
      aliasGraph.Leads aliasFile (.named ⟨"Shown", []⟩) [(aliasFile, shownAlias)]
        (aliasFile, innerStruct) ∧
      ∃ ctx, Occurs aliasGraph .firstWins (aliasFile, aliasingOuter) []
          (.contribution aliasFile "inner" true .empty (.named ⟨"Shown", []⟩), ctx) ∧
        (∃ schema, (contribution aliasGraph aliasFile "inner" true .empty (.named ⟨"Shown", []⟩)
            ctx).answer = [("inner", schema)] ∧ schema.referenceTarget? = some "Inner") ∧
          (contribution aliasGraph aliasFile "inner" true .empty (.named ⟨"Inner", []⟩) ctx).answer =
            [("y", Schema.primitive "boolean" none)] := by
  have component : Occurs aliasGraph .firstWins (aliasFile, aliasingOuter) []
      (.type aliasFile aliasingOuter, Context.start .firstWins) :=
    @Occurs.start _ _ [] [(aliasFile, wrappingOuter), (aliasFile, shownAlias), (aliasFile, innerStruct)]
      _ rfl (by decide +kernel)
  have direct : aliasGraph.Leads aliasFile (.named ⟨"Inner", []⟩) [] (aliasFile, innerStruct) :=
    .declared unknown_innerStruct findType?_innerStruct
  have leads : aliasGraph.Leads aliasFile (.named ⟨"Shown", []⟩) [(aliasFile, shownAlias)]
      (aliasFile, innerStruct) :=
    .«alias» (by decide +kernel) (by decide +kernel) rfl direct
  have fresh : innerStruct.name ∉ ((Context.start .firstWins).enter "Aliasing").active := by decide
  obtain ⟨schema, worked, spliced⟩ := contribution_of_struct direct fresh rfl "inner" .empty
  cases (typeSchema_innerStruct _).symm.trans worked
  refine ⟨by decide, acyclic_aliasGraph, leads, _, component.first_field rfl rfl, ?_, spliced⟩
  exact contribution_of_alias leads (by decide) rfl "inner" .empty

end Generator

end SwaggerDocs
