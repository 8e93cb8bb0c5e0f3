/-
Module: SwaggerDocs.Proofs.Generation.Independence
Purpose: When the definitions do not depend on the order of the declarations. A declaration is worked
  out again at each use, and what it comes to depends on the active names only where a flattened use
  leads to one of them. If no recursion mixes flattened uses with references, this does not happen to
  a schema that is registered: each type has one definition, whatever the order and the policy. Where
  recursion mixes both, a type may be defined without the properties that it splices.
Main exports: Declarations.Flattens, Declarations.Unmixed, Declarations.Grounded, Generation.definition,
  value_eq_of_flattened, registered_definition, Generator.definitions_independent
-/
import SwaggerDocs.Proofs.Generation.Reordering

namespace SwaggerDocs

open Generation

namespace Declarations

/-- A use in one declaration resolves to another one and is flattened. -/
def Flattens (graph : Declarations) (source target : Place) : Prop :=
  ∃ use ∈ source.2.uses, use.flattened = true ∧
    graph.findType? use.type.name source.1.path = some target

/-- No recursion mixes flattened uses with references: where a flattened use leads on to a reference,
    that reference does not lead back. -/
def Unmixed (graph : Declarations) : Prop :=
  ∀ {source target reached referred : Place}, graph.Flattens source target →
    graph.Reaches target reached → graph.Refers reached referred → ¬graph.Reaches referred source

/-- No cycle of uses contains a flattened use. So no recursion is mixed. -/
def Grounded (graph : Declarations) : Prop :=
  ∀ source target, graph.Flattens source target → ¬graph.Reaches target source

variable {graph : Declarations} {source target : Place}

theorem Flattens.uses (flattens : graph.Flattens source target) : graph.Uses source target := by
  obtain ⟨use, used, _, found⟩ := flattens
  exact ⟨use, used, found⟩

/-- What a use resolves to is declared. -/
theorem Uses.placed (uses : graph.Uses source target) : target ∈ graph.placedTypes := by
  obtain ⟨_, _, found⟩ := uses
  exact mem_placedTypes_of_findType? found

/-- A declaration with uses has a schema. -/
theorem Uses.mappable (uses : graph.Uses source target) : source.2.mappable = true := by
  obtain ⟨use, used, _⟩ := uses
  rw [TypeDeclaration.uses] at used
  rw [TypeDeclaration.mappable]
  cases shape : source.2.shape with
  | unmappable reason =>
      rw [shape] at used
      cases used
  | struct fields => rfl
  | «alias» target => rfl
  | enumeration names => rfl

/-- Where flattened uses lead starts with one of them. -/
theorem exists_flattens_of_transGen (flattened : Relation.TransGen graph.Flattens source target) :
    ∃ next, graph.Flattens source next ∧ graph.Reaches next target := by
  obtain ⟨next, first, later⟩ := Relation.TransGen.head'_iff.1 flattened
  have uses : graph.Flattens ≤ graph.Uses := fun _ _ flattens => Flattens.uses flattens
  exact ⟨next, first, Relation.ReflTransGen.mono uses _ _ later⟩

/-- Where flattened uses lead is declared. -/
theorem placed_of_transGen (flattened : Relation.TransGen graph.Flattens source target) :
    target ∈ graph.placedTypes := by
  cases flattened with
  | single last => exact last.uses.placed
  | tail _ last => exact last.uses.placed

/-- If the reference led back to where the flattened use is, the use would lie on a cycle. -/
theorem Grounded.unmixed (grounded : graph.Grounded) : graph.Unmixed := by
  intro source target reached referred flattens leads refers back
  obtain ⟨use, used, _, found⟩ := refers
  have uses : graph.Uses reached referred := ⟨use, used, found⟩
  exact grounded source target flattens ((leads.tail uses).trans back)

section Ranks

variable (rank : String → Nat)
  (descends : ∀ source ∈ graph.placedTypes, ∀ use ∈ source.2.uses,
    ∀ target ∈ graph.findType? use.type.name source.1.path,
      rank target.2.name ≤ rank source.2.name ∧
        (use.flattened = true → rank target.2.name < rank source.2.name))
include descends

/-- No cycle contains a flattened use if uses never lead upwards, and flattened uses lead downwards. -/
theorem grounded_of_rank : graph.Grounded := by
  intro source target flattens back
  have targetPlaced := flattens.uses.placed
  have sourcePlaced := Reaches.mem_placedTypes back targetPlaced
  have level := fun source placed use used target found =>
    (descends source placed use used target found).1
  have up := Reaches.rank_le rank level back targetPlaced
  obtain ⟨use, used, flat, found⟩ := flattens
  have down := (descends source sourcePlaced use used target found).2 flat
  exact Nat.lt_irrefl _ (Nat.lt_of_lt_of_le down up)

theorem unmixed_of_rank : graph.Unmixed := (grounded_of_rank rank descends).unmixed

end Ranks

end Declarations

namespace Generation

open Declarations

/-- The definition of a type: what it comes to if it is worked out alone. -/
def definition (graph : Declarations) (place : Place) : Option Schema :=
  (typeSchema graph place.1 place.2).value

/-! ### Values and active names

A plain use stands for the same reference whether its target is active or not. So active names change a
value only through flattened uses, and by induction only through those that flattened uses lead to. -/

section Values

variable {graph : Declarations} {active : List String} {file : FileDeclarations} {use : Use}
  {place : Place}

/-- What a use stands for depends on the schema of its target and not on the cyclic names. -/
theorem useOf_fst (name : String) (embedded : Bool) (schema : Option Schema)
    (cyclic others : List String) :
    (useOf name embedded schema cyclic).1 = (useOf name embedded schema others).1 := by
  cases schema with
  | none => rfl
  | some made => cases embedded <;> rfl

/-- A plain use stands for a reference if its target has a schema, and is skipped if not. -/
theorem useOf_fst_of_plain (name : String) (schema : Option Schema) (cyclic : List String) :
    (useOf name false schema cyclic).1 =
      if schema.isSome then .schema (Schema.referTo name) else .skip := by
  cases schema <;> rfl

/-- A reference to a type with a schema is the same whether the type is active or not. -/
theorem value_useOutcome_of_plain (plain : use.flattened = false)
    (found : graph.findType? use.type.name file.path = some place)
    (mapped : place.2.name ∈ active → place.2.mappable = true) :
    (useOutcome graph active file use).value =
      if place.2.mappable then .schema (Schema.referTo place.2.name) else .skip := by
  rw [useOutcome]
  by_cases busy : place.2.name ∈ active
  · rw [namedUse_of_active found busy, plain, if_pos (mapped busy)]
    rfl
  · rw [namedUse_of_fresh found busy, plain]
    dsimp only
    rw [useOf_fst_of_plain, isSome_value_shapeSchema]

/-- All active names are those of types with schemas. -/
def Mapped (graph : Declarations) (active : List String) : Prop :=
  ∀ place ∈ graph.placedTypes, place.2.name ∈ active → place.2.mappable = true

/-- A type with a schema may be added to the active names. -/
theorem Mapped.cons (distinct : graph.DistinctNames) (mapped : Mapped graph active)
    (placed : place ∈ graph.placedTypes) (mappable : place.2.mappable = true) :
    Mapped graph (place.2.name :: active) := by
  intro other otherPlaced member
  rcases List.mem_cons.1 member with same | member
  · rw [distinct.eq_of_name_eq otherPlaced placed same]
    exact mappable
  · exact mapped other otherPlaced member

/-- The value of a declaration depends on the active names only as far as flattened uses lead to
    them. -/
theorem value_eq_of_flattened (distinct : graph.DistinctNames) (active : List String)
    (file : FileDeclarations) (decl : TypeDeclaration) :
    ∀ others, Mapped graph active → Mapped graph others →
      (∀ target, Relation.TransGen graph.Flattens (file, decl) target →
        (target.2.name ∈ active ↔ target.2.name ∈ others)) →
      (shapeSchema graph active file decl).value = (shapeSchema graph others file decl).value := by
  induction active, file, decl using uses_induction graph with
  | step active file decl ih =>
      intro others mapped mapped' agree
      apply shapeSchema_value_congr
      intro use used
      cases found : graph.findType? use.type.name file.path with
      | none =>
          rw [useOutcome, useOutcome, namedUse_of_missing found, namedUse_of_missing found]
      | some place =>
          obtain ⟨targetFile, target⟩ := place
          have placed := mem_placedTypes_of_findType? found
          cases flat : use.flattened with
          | false =>
              rw [value_useOutcome_of_plain flat found (mapped _ placed),
                value_useOutcome_of_plain flat found (mapped' _ placed)]
          | true =>
              -- The use leads to its target, so the target is active in both or in neither.
              have flattens : graph.Flattens (file, decl) (targetFile, target) :=
                ⟨use, used, flat, found⟩
              have same := agree _ (Relation.TransGen.single flattens)
              rw [useOutcome, useOutcome]
              by_cases busy : target.name ∈ active
              · rw [namedUse_of_active found busy, namedUse_of_active found (same.1 busy), flat]
              · have free : target.name ∉ others := fun member => busy (same.2 member)
                have value :
                    (shapeSchema graph (target.name :: active) targetFile target).value =
                      (shapeSchema graph (target.name :: others) targetFile target).value := by
                  cases mappable : target.mappable with
                  | false => rw [value_of_unmappable mappable, value_of_unmappable mappable]
                  | true =>
                      apply ih use used targetFile target found busy
                      · exact mapped.cons distinct placed mappable
                      · exact mapped'.cons distinct placed mappable
                      · intro reached flattened
                        have step := agree reached (Relation.TransGen.head flattens flattened)
                        simp only [List.mem_cons, step]
                rw [namedUse_of_fresh found busy, namedUse_of_fresh found free]
                simp only [value]
                exact useOf_fst _ _ _ _ _

end Values

/-! ### What is registered

A type is registered under its name when it was referred to. The active names then lie on the way to it,
and a mixed recursion would be needed for its flattened uses to lead to one of them. -/

section Registered

variable {graph : Declarations} {active : List String} {source target : Place}

/-- All active names are those of types with schemas that lead to the declaration being worked
    out. -/
def Trail (graph : Declarations) (active : List String) (source : Place) : Prop :=
  ∀ place ∈ graph.placedTypes, place.2.name ∈ active →
    place.2.mappable = true ∧ graph.Reaches place source

theorem trail_singleton (distinct : graph.DistinctNames) (placed : source ∈ graph.placedTypes)
    (mappable : source.2.mappable = true) : Trail graph [source.2.name] source := by
  intro place otherPlaced member
  obtain rfl := distinct.eq_of_name_eq otherPlaced placed (List.mem_singleton.1 member)
  exact ⟨mappable, Relation.ReflTransGen.refl⟩

/-- A use extends the trail to its target. -/
theorem Trail.cons (distinct : graph.DistinctNames) (trail : Trail graph active source)
    (uses : graph.Uses source target) (mappable : target.2.mappable = true) :
    Trail graph (target.2.name :: active) target := by
  intro place placed member
  rcases List.mem_cons.1 member with same | member
  · obtain rfl := distinct.eq_of_name_eq placed uses.placed same
    exact ⟨mappable, Relation.ReflTransGen.refl⟩
  · obtain ⟨mapped, reaches⟩ := trail place placed member
    exact ⟨mapped, reaches.tail uses⟩

/-- The names on a trail are those of types with schemas. -/
theorem Trail.mapped (trail : Trail graph active source) : Mapped graph active := by
  intro place placed member
  exact (trail place placed member).1

/-- A type that is referred to on the way from its use back to it comes to its definition: an active
    name that its flattened uses lead to would close a recursion that is mixed. -/
theorem value_eq_definition (distinct : graph.DistinctNames) (unmixed : graph.Unmixed)
    (trail : Trail graph active source) (uses : graph.Uses source target)
    (mappable : target.2.mappable = true)
    (referred : ∃ reached, graph.Reaches source reached ∧ graph.Refers reached target) :
    (shapeSchema graph (target.2.name :: active) target.1 target.2).value =
      definition graph target := by
  obtain ⟨referrer, toReferrer, refers⟩ := referred
  apply value_eq_of_flattened distinct
  · exact (trail.cons distinct uses mappable).mapped
  · exact (trail_singleton distinct uses.placed mappable).mapped
  · intro reached flattened
    have inactive : reached.2.name ∉ active := by
      intro busy
      obtain ⟨next, flattens, toReached⟩ := exists_flattens_of_transGen flattened
      obtain ⟨_, toSource⟩ := trail reached (placed_of_transGen flattened) busy
      exact unmixed flattens ((toReached.trans toSource).trans toReferrer) refers
        Relation.ReflTransGen.refl
    simp [inactive]

/-- What a declaration registers are definitions of types under their names. -/
theorem registered_definition (distinct : graph.DistinctNames) (unmixed : graph.Unmixed)
    (active : List String) (file : FileDeclarations) (decl : TypeDeclaration) :
    Trail graph active (file, decl) →
      ∀ entry ∈ (shapeSchema graph active file decl).registrations,
        ∃ place ∈ graph.placedTypes, place.2.name = entry.1 ∧
          definition graph place = some entry.2 := by
  induction active, file, decl using uses_induction graph with
  | step active file decl ih =>
      intro trail entry registered
      rw [shapeSchema_registrations] at registered
      obtain ⟨use, used, registered⟩ := List.mem_flatMap.1 registered
      obtain ⟨targetFile, target, found, fresh, origin⟩ :=
        mem_registrations_useOutcome.1 registered
      have uses : graph.Uses (file, decl) (targetFile, target) := ⟨use, used, found⟩
      rcases origin with inner | ⟨schema, value, referred, rfl⟩
      · have mappable : target.mappable = true := by
          rw [shapeSchema_registrations] at inner
          obtain ⟨next, nextUsed, inner⟩ := List.mem_flatMap.1 inner
          obtain ⟨nextFile, nextDecl, nextFound, _⟩ := mem_registrations_useOutcome.1 inner
          have onward : graph.Uses (targetFile, target) (nextFile, nextDecl) :=
            ⟨next, nextUsed, nextFound⟩
          exact onward.mappable
        exact ih use used targetFile target found fresh (trail.cons distinct uses mappable) entry
          inner
      · refine ⟨(targetFile, target), uses.placed, rfl, ?_⟩
        have mappable : target.mappable = true := mappable_of_value value
        refine (value_eq_definition distinct unmixed trail uses mappable ?_).symm.trans value
        cases flat : use.flattened with
        | false => exact ⟨(file, decl), Relation.ReflTransGen.refl, use, used, flat, found⟩
        | true =>
            obtain ⟨reached, other, reaches, refers, same⟩ :=
              refers_of_mem_cyclic (referred flat)
            have otherPlaced : other ∈ graph.placedTypes := by
              obtain ⟨_, _, _, otherFound⟩ := refers
              exact mem_placedTypes_of_findType? otherFound
            obtain rfl := distinct.eq_of_name_eq otherPlaced uses.placed same
            exact ⟨reached, Relation.ReflTransGen.head uses reaches, refers⟩

/-- All that is registered are definitions of types, under their names or as components. -/
theorem traceOf_definition (distinct : graph.DistinctNames) (unmixed : graph.Unmixed)
    {entry : String × Schema} (member : entry ∈ traceOf graph graph.placedTypes) :
    ∃ place ∈ graph.placedTypes, definition graph place = some entry.2 ∧
      (place.2.name = entry.1 ∨ place.2.docs.componentId? = some entry.1) := by
  obtain ⟨place, placed, registered⟩ := mem_traceOf.1 member
  obtain ⟨id, schema, declared, value, origin⟩ := mem_registrations_component.1 registered
  rcases origin with inner | rfl | ⟨_, rfl⟩
  · have trail := trail_singleton distinct placed (mappable_of_value value)
    obtain ⟨other, otherPlaced, named, defined⟩ :=
      registered_definition distinct unmixed [place.2.name] place.1 place.2 trail entry inner
    exact ⟨other, otherPlaced, defined, Or.inl named⟩
  · exact ⟨place, placed, value, Or.inr declared⟩
  · exact ⟨place, placed, value, Or.inl rfl⟩

end Registered

end Generation

/-! ### Registries

Registrations that agree on each identifier leave the same registry in any order, whichever of two
registrations of an identifier is kept. -/

namespace Registry

section Single

variable {entries others : List (String × Schema)}

/-- Where each identifier is registered with one schema, the registry holds it, whatever the policy. -/
theorem get?_registerAll_of_single
    (single : ∀ id schema other, (id, schema) ∈ entries → (id, other) ∈ entries → schema = other)
    (policy : RegistrationPolicy) {id : String} {schema : Schema} :
    ((empty policy).registerAll entries).get? id = some schema ↔ (id, schema) ∈ entries := by
  have origin {found : Schema} (bound : ((empty policy).registerAll entries).get? id = some found) :
      (id, found) ∈ entries := by
    rcases get?_registerAll_origin bound with old | new
    · cases old
    · exact new
  constructor
  · exact origin
  · intro member
    have present : ((empty policy).registerAll entries).contains id = true :=
      contains_registerAll.2 (Or.inr ⟨schema, member⟩)
    obtain ⟨found, bound⟩ := Option.isSome_iff_exists.1 present
    rw [bound, single id found schema (origin bound) member]

/-- Such registrations leave the same schemas in any order and with any policy. -/
theorem schemas_registerAll_of_single
    (single : ∀ id schema other, (id, schema) ∈ entries → (id, other) ∈ entries → schema = other)
    (same : ∀ entry, entry ∈ others ↔ entry ∈ entries) (policy policy' : RegistrationPolicy) :
    ((empty policy).registerAll others).schemas = ((empty policy').registerAll entries).schemas := by
  have single' : ∀ id schema other, (id, schema) ∈ others → (id, other) ∈ others →
      schema = other := by
    intro id schema other left right
    exact single id schema other ((same _).1 left) ((same _).1 right)
  apply Entries.eq_of_find?_eq
  · exact ascending_registerAll trivial
  · exact ascending_registerAll trivial
  · intro id
    apply Option.ext
    intro schema
    refine (get?_registerAll_of_single single' policy).trans ((same _).trans ?_)
    exact (get?_registerAll_of_single single policy').symm

end Single

/-- Overwriting reports nothing. -/
theorem keptFirst_replay_of_overwrite {registry : Registry} {events : List Event}
    (overwrites : registry.policy = .overwrite)
    (others : ∀ warning, Event.warn warning ∈ events → warning.isKeptFirst = false) :
    (registry.replay events).2.filter Warning.isKeptFirst = [] := by
  induction events generalizing registry with
  | nil => rfl
  | cons event rest ih =>
      have later {reached : Registry} (policy : reached.policy = .overwrite) :=
        ih policy fun warning member => others warning (List.mem_cons_of_mem _ member)
      cases event with
      | warn warning =>
          have plain := others warning List.mem_cons_self
          simp only [replay, step, List.filter_append, later overwrites]
          simp [plain]
      | register id schema =>
          have silent : (registry.register id schema).2 = [] := by
            unfold register
            split
            · rfl
            · split
              · rfl
              · rw [overwrites]
          simp only [replay, step, List.filter_append, silent,
            later ((policy_register registry id schema).trans overwrites)]
          rfl

end Registry

namespace Generation

/-- Two declarations with one identifier are equal if identifiers are distinct. -/
theorem eq_of_componentId? {decls : List TypeDeclaration}
    (ids : (decls.filterMap (·.docs.componentId?)).Nodup) {decl other : TypeDeclaration}
    (listed : decl ∈ decls) (otherListed : other ∈ decls) {id : String}
    (declared : decl.docs.componentId? = some id) (same : other.docs.componentId? = some id) :
    decl = other := by
  induction decls with
  | nil => cases listed
  | cons first rest ih =>
      rw [filterMap_cons_eq, List.nodup_append] at ids
      obtain ⟨_, later, disjoint⟩ := ids
      have once {decl : TypeDeclaration} (listed : decl ∈ rest)
          (declared : decl.docs.componentId? = some id) : first.docs.componentId? ≠ some id := by
        intro firstDeclared
        have inRest : id ∈ rest.filterMap (·.docs.componentId?) :=
          List.mem_filterMap.2 ⟨decl, listed, declared⟩
        exact disjoint id (Option.mem_toList.2 firstDeclared) id inRest rfl
      rcases List.mem_cons.1 listed with rfl | inRest
      · rcases List.mem_cons.1 otherListed with rfl | otherInRest
        · rfl
        · exact absurd declared (once otherInRest same)
      · rcases List.mem_cons.1 otherListed with rfl | otherInRest
        · exact absurd same (once inRest declared)
        · exact ih later inRest otherInRest

/-- Where names and identifiers are distinct and do not clash, an identifier is that of one type. -/
theorem traceOf_single {graph : Declarations} (distinct : graph.DistinctNames)
    (ids : (graph.types.filterMap (·.docs.componentId?)).Nodup)
    (apart : ∀ decl ∈ graph.types, ∀ other ∈ graph.types,
      decl.docs.componentId? = some other.name → decl = other)
    (unmixed : graph.Unmixed) (id : String) (schema other : Schema)
    (left : (id, schema) ∈ traceOf graph graph.placedTypes)
    (right : (id, other) ∈ traceOf graph graph.placedTypes) : schema = other := by
  obtain ⟨place, placed, defined, known⟩ := traceOf_definition distinct unmixed left
  obtain ⟨place', placed', defined', known'⟩ := traceOf_definition distinct unmixed right
  have declared {place : Place} (placed : place ∈ graph.placedTypes) : place.2 ∈ graph.types := by
    rw [← Declarations.map_snd_placedTypes]
    exact List.mem_map_of_mem placed
  have one : place.2 = place'.2 := by
    rcases known with named | component
    · rcases known' with named' | component'
      · rw [distinct.eq_of_name_eq placed placed' (named.trans named'.symm)]
      · rw [← named] at component'
        exact (apart _ (declared placed') _ (declared placed) component').symm
    · rcases known' with named' | component'
      · rw [← named'] at component
        exact apart _ (declared placed) _ (declared placed') component
      · exact eq_of_componentId? ids (declared placed) (declared placed') component component'
  obtain rfl := distinct.eq_of_name_eq placed placed' (congrArg _ one)
  exact Option.some.inj (defined.symm.trans defined')

end Generation

namespace Generator

/-- Where names and identifiers are distinct and do not clash, and no recursion mixes flattened uses
    with references, all registrations of one identifier are of one schema. So the definitions are the
    same with either policy, no schema is reported as not kept, and the definitions do not change if
    the files are taken in another order, or the declarations in a file are. -/
theorem definitions_independent (graph : Declarations)
    (distinct : (graph.types.map (·.name)).Nodup)
    (ids : (graph.types.filterMap (·.docs.componentId?)).Nodup)
    (apart : ∀ decl ∈ graph.types, ∀ other ∈ graph.types,
      decl.docs.componentId? = some other.name → decl = other)
    (unmixed : graph.Unmixed) :
    (∀ policy, (generateAll graph policy).registry =
      (Registry.empty policy).registerAll (traceOf graph graph.placedTypes)) ∧
    (∀ id schema other, (id, schema) ∈ traceOf graph graph.placedTypes →
      (id, other) ∈ traceOf graph graph.placedTypes → schema = other) ∧
    (generateAll graph .overwrite).registry.schemas =
      (generateAll graph .firstWins).registry.schemas ∧
    (∀ policy, (generateAll graph policy).warnings.filter Warning.isKeptFirst = []) ∧
    ∀ reordered, graph.Reorders reordered → ∀ policy,
      (generateAll reordered policy).registry.schemas =
        (generateAll graph policy).registry.schemas := by
  have single := traceOf_single distinct ids apart unmixed
  refine ⟨registry_generateAll graph, single, ?_, ?_, ?_⟩
  · rw [registry_generateAll, registry_generateAll]
    exact Registry.schemas_registerAll_of_single single (fun _ => Iff.rfl) _ _
  · intro policy
    cases policy with
    | overwrite =>
        rw [generateAll_eq_replay]
        apply Registry.keptFirst_replay_of_overwrite rfl
        intro warning member
        obtain ⟨place, _, made⟩ := List.mem_flatMap.1 member
        exact component_events_plain graph place.1 place.2 _ made
    | firstWins =>
        classical
        rw [keptFirst_generateAll, List.map_eq_nil_iff, List.filter_eq_nil_iff]
        intro entry member
        -- Every registration is the one that is kept, so none is reported.
        have kept := (Registry.get?_registerAll_of_single single .firstWins).2 member
        rw [registry_generateAll]
        simpa using kept
  · intro reordered reorders policy
    rw [registry_generateAll, registry_generateAll]
    apply Registry.schemas_registerAll_of_single single
    intro entry
    exact (mem_traceOf_reordered reorders distinct).symm

/-- A component that splices a recursive type. -/
def treeRoot : TypeDeclaration where
  name := "Tree"
  docs := ⟨["openapi:component schema Tree"]⟩
  shape := .struct [⟨"root", true, true, none, .named ⟨"Node", []⟩, .empty⟩]

/-- A type with a list of parts of the same type. -/
def treeNode : TypeDeclaration where
  name := "Node"
  docs := .empty
  shape := .struct [⟨"children", true, false, none, .sequence (.named ⟨"Node", []⟩), .empty⟩]

/-- The file of both types, in a given order. -/
def treeFile (types : List TypeDeclaration) : FileDeclarations where
  path := ⟨"tree.rs"⟩
  docs := .empty
  types := types
  functions := []

/-- The types of the tree may be declared in either order: the recursion has references only. -/
theorem definitions_independent_tree :
    ((Declarations.types ⟨[treeFile [treeRoot, treeNode]]⟩).map (·.name)).Nodup ∧
      (generateAll ⟨[treeFile [treeNode, treeRoot]]⟩ .firstWins).registry.schemas =
        (generateAll ⟨[treeFile [treeRoot, treeNode]]⟩ .firstWins).registry.schemas := by
  have distinct :
      ((Declarations.types ⟨[treeFile [treeRoot, treeNode]]⟩).map (·.name)).Nodup := by decide
  have unmixed : Declarations.Unmixed ⟨[treeFile [treeRoot, treeNode]]⟩ := by
    apply Declarations.unmixed_of_rank fun name => if name = "Tree" then 1 else 0
    decide +kernel
  have reorders : Declarations.Reorders ⟨[treeFile [treeRoot, treeNode]]⟩
      ⟨[treeFile [treeNode, treeRoot]]⟩ :=
    ⟨_, List.Perm.refl _, .cons ⟨rfl, rfl, List.Perm.swap _ _ _, List.Perm.refl _⟩ .nil⟩
  obtain ⟨_, _, _, _, reordered⟩ := definitions_independent ⟨[treeFile [treeRoot, treeNode]]⟩
    distinct (by decide +kernel) (by decide +kernel) unmixed
  exact ⟨distinct, reordered _ reorders .firstWins⟩

end Generator

/-! ### A recursion that is mixed

One component splices the other one, which refers back. While the inner one is worked out, the outer
one is found to splice an active type, and is registered without the properties of that type. -/

namespace Generation

/-- A component that splices the other one. -/
def mixedOuter : TypeDeclaration where
  name := "A"
  docs := ⟨["openapi:component schema A"]⟩
  shape := .struct [⟨"b", true, true, none, .named ⟨"B", []⟩, .empty⟩]

/-- A component that refers back. -/
def mixedInner : TypeDeclaration where
  name := "B"
  docs := ⟨["openapi:component schema B"]⟩
  shape := .struct [⟨"r", true, false, none, .indirect (.named ⟨"A", []⟩), .empty⟩]

/-- The file of both components. -/
def mixedFile : FileDeclarations where
  path := ⟨"mixed.rs"⟩
  docs := .empty
  types := [mixedOuter, mixedInner]
  functions := []

/-- The definition of both components: their only property refers to the outer one. -/
def mixedSchema : Schema := { Schema.object with properties := [("r", Schema.referTo "A")] }

section Mixed

variable {active : List String}

theorem findType?_mixedOuter :
    Declarations.findType? ⟨[mixedFile]⟩ "A" mixedFile.path = some (mixedFile, mixedOuter) := by
  rfl

theorem findType?_mixedInner :
    Declarations.findType? ⟨[mixedFile]⟩ "B" mixedFile.path = some (mixedFile, mixedInner) := by
  rfl

/-- Working out the outer component takes what its use of the inner one stands for. -/
theorem shapeSchema_mixedOuter :
    shapeSchema ⟨[mixedFile]⟩ active mixedFile mixedOuter =
      let made := namedUse ⟨[mixedFile]⟩ active mixedFile true ⟨"B", []⟩
      { value := some { Schema.object with
          properties := Entries.extend [] (match made.value with
            | .schema schema => single "b" schema .empty
            | .splice properties => properties
            | .skip => []) }
        cyclic := made.cyclic
        events := made.events } := by
  have known : wellKnownSchema? ⟨"B", []⟩ = none := by rfl
  have text : mixedOuter.docs.text? = none := by rfl
  rw [shapeSchema]
  simp only [text]
  simp only [mixedOuter, fieldProperties, contribution, Field.contributes, known, Bool.true_or,
    if_true, List.append_nil]
  rfl

/-- Working out the inner component takes what its use of the outer one stands for. -/
theorem shapeSchema_mixedInner :
    shapeSchema ⟨[mixedFile]⟩ active mixedFile mixedInner =
      let made := namedUse ⟨[mixedFile]⟩ active mixedFile false ⟨"A", []⟩
      { value := some { Schema.object with
          properties := Entries.extend [] (match made.value with
            | .schema schema => single "r" schema .empty
            | .splice properties => properties
            | .skip => []) }
        cyclic := made.cyclic
        events := made.events } := by
  have known : wellKnownSchema? ⟨"A", []⟩ = none := by rfl
  have text : mixedInner.docs.text? = none := by rfl
  rw [shapeSchema]
  simp only [text]
  simp only [mixedInner, fieldProperties, contribution, Field.contributes, known, Bool.true_or,
    if_true, List.append_nil]
  rfl

theorem single_mixed : single "r" (Schema.referTo "A") .empty = [("r", Schema.referTo "A")] := by
  have plain : Documentation.empty.text? = none := by rfl
  simp only [single, applyDocs, plain]
  rfl

/-- The outer component is worked out with the property that it splices. -/
theorem typeSchema_mixedOuter :
    typeSchema ⟨[mixedFile]⟩ mixedFile mixedOuter =
      { value := some mixedSchema, cyclic := ["A"] } := by
  have inner : shapeSchema ⟨[mixedFile]⟩ [mixedInner.name, mixedOuter.name] mixedFile mixedInner =
      { value := some mixedSchema, cyclic := ["A"] } := by
    rw [shapeSchema_mixedInner, namedUse_of_active findType?_mixedOuter (by decide)]
    simp only [Bool.false_eq_true, if_false]
    rw [mixedOuter, single_mixed]
    rfl
  have fresh : mixedInner.name ∉ [mixedOuter.name] := by decide
  rw [typeSchema, shapeSchema_mixedOuter, namedUse_of_fresh findType?_mixedInner fresh, inner]
  rfl

/-- The outer component is registered without properties. -/
theorem typeSchema_mixedInner :
    typeSchema ⟨[mixedFile]⟩ mixedFile mixedInner =
      { value := some mixedSchema
        events := [.warn (.flattensItself "B"), .register "A" Schema.object] } := by
  have outer : shapeSchema ⟨[mixedFile]⟩ [mixedOuter.name, mixedInner.name] mixedFile mixedOuter =
      { value := some Schema.object, events := [.warn (.flattensItself "B")] } := by
    rw [shapeSchema_mixedOuter, namedUse_of_active findType?_mixedInner (by decide)]
    rfl
  have fresh : mixedOuter.name ∉ [mixedInner.name] := by decide
  rw [typeSchema, shapeSchema_mixedInner, namedUse_of_fresh findType?_mixedOuter fresh, outer]
  simp only [useOf, Bool.false_eq_true, if_false]
  rw [mixedOuter, single_mixed]
  rfl

/-- What both components register, in order: the outer one twice, the second time without the properties
    that it splices. -/
theorem traceOf_mixed :
    traceOf ⟨[mixedFile]⟩ (Declarations.placedTypes ⟨[mixedFile]⟩) =
      [("A", mixedSchema), ("A", Schema.object), ("B", mixedSchema)] := by
  have outerId : mixedOuter.docs.componentId? = some "A" := by rfl
  have innerId : mixedInner.docs.componentId? = some "B" := by rfl
  have outerValue := congrArg Outcome.value typeSchema_mixedOuter
  have innerValue := congrArg Outcome.value typeSchema_mixedInner
  have placed : Declarations.placedTypes ⟨[mixedFile]⟩ =
      [(mixedFile, mixedOuter), (mixedFile, mixedInner)] := rfl
  rw [placed, traceOf, List.flatMap_cons, List.flatMap_cons, List.flatMap_nil,
    component_of_mapped outerId outerValue, component_of_mapped innerId innerValue,
    typeSchema_mixedOuter, typeSchema_mixedInner]
  rfl

end Mixed

end Generation

namespace Generator

/-- Distinct names and identifiers do not suffice: where recursion mixes a flattened use with a
    reference, the policies keep different definitions of one component. -/
theorem definitions_mixed :
    ((Declarations.types ⟨[mixedFile]⟩).map (·.name)).Nodup ∧
      ((Declarations.types ⟨[mixedFile]⟩).filterMap (·.docs.componentId?)).Nodup ∧
      (∀ decl ∈ Declarations.types ⟨[mixedFile]⟩, ∀ other ∈ Declarations.types ⟨[mixedFile]⟩,
        decl.docs.componentId? = some other.name → decl = other) ∧
      (generateAll ⟨[mixedFile]⟩ .overwrite).registry.schemas ≠
        (generateAll ⟨[mixedFile]⟩ .firstWins).registry.schemas := by
  refine ⟨by decide, by decide +kernel, by decide +kernel, ?_⟩
  intro same
  have overwritten : (generateAll ⟨[mixedFile]⟩ .overwrite).registry.get? "A" = some Schema.object := by
    rw [get?_generateAll_of_overwrite, traceOf_mixed]
    rfl
  have kept : (generateAll ⟨[mixedFile]⟩ .firstWins).registry.get? "A" = some mixedSchema := by
    rw [get?_generateAll_of_firstWins, traceOf_mixed]
    rfl
  rw [Registry.get?, same] at overwritten
  have equal := Option.some.inj (overwritten.symm.trans kept)
  have properties : ([] : Entries String Schema) = [("r", Schema.referTo "A")] :=
    congrArg Schema.properties equal
  cases properties

end Generator

end SwaggerDocs
