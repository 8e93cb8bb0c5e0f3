/-
Module: SwaggerDocs.Proofs.Generation.Reachability
Purpose: Which identifiers are defined. The generator follows uses from a component and stops at a type
  that is still being worked out. It nevertheless works out every type that can be reached: a type at
  which it stops was entered on the way. So the defined identifiers are those of components, and the
  names of types that a reachable one refers to.
Main exports: Declarations.Uses, Declarations.Refers, Generation.Enters, Generation.Visits,
  Generation.visits_of_reaches, Generation.known_of_visits, Generator.mem_ids_iff_reachable
-/
import Mathlib.Data.List.Nodup
import Mathlib.Logic.Relation
import SwaggerDocs.Proofs.Generation.References

namespace SwaggerDocs

open Generation

/-- A declared type with its file. -/
abbrev Place := FileDeclarations × TypeDeclaration

namespace Declarations

/-- A use in one declaration resolves to another one. -/
def Uses (graph : Declarations) (source target : Place) : Prop :=
  ∃ use ∈ source.2.uses, graph.findType? use.type.name source.1.path = some target

/-- A use in one declaration resolves to another one and is not flattened. -/
def Refers (graph : Declarations) (source target : Place) : Prop :=
  ∃ use ∈ source.2.uses, use.flattened = false ∧
    graph.findType? use.type.name source.1.path = some target

/-- A declaration can be reached from another one by uses. -/
def Reaches (graph : Declarations) : Place → Place → Prop := Relation.ReflTransGen graph.Uses

/-- No two types have the same name. -/
def DistinctNames (graph : Declarations) : Prop := (graph.types.map (·.name)).Nodup

variable {graph : Declarations}

/-- What a name resolves to is declared. -/
theorem mem_placedTypes_of_findType? {name : String} {path : Path} {target : Place}
    (found : graph.findType? name path = some target) : target ∈ graph.placedTypes := by
  obtain ⟨inGraph, inFile, _⟩ := findType?_mem found
  exact mem_placedTypes.2 ⟨inGraph, inFile⟩

/-- What is reached from a declared type is declared. -/
theorem Reaches.mem_placedTypes {source target : Place} (reaches : graph.Reaches source target)
    (placed : source ∈ graph.placedTypes) : target ∈ graph.placedTypes := by
  cases reaches with
  | refl => exact placed
  | tail _ last =>
      obtain ⟨_, _, found⟩ := last
      exact mem_placedTypes_of_findType? found

/-- What is reached has no higher rank if uses never lead upwards. -/
theorem Reaches.rank_le (rank : String → Nat)
    (descends : ∀ source ∈ graph.placedTypes, ∀ use ∈ source.2.uses,
      ∀ target ∈ graph.findType? use.type.name source.1.path,
        rank target.2.name ≤ rank source.2.name)
    {source target : Place} (reaches : graph.Reaches source target)
    (placed : source ∈ graph.placedTypes) : rank target.2.name ≤ rank source.2.name := by
  induction reaches with
  | refl => exact Nat.le_refl _
  | @tail before after path last ih =>
      obtain ⟨use, used, found⟩ := last
      have step := descends before (Reaches.mem_placedTypes path placed) use used after found
      exact Nat.le_trans step ih

/-- Where names are distinct, a name tells which declaration it is of. -/
theorem DistinctNames.eq_of_name_eq (distinct : graph.DistinctNames) {left right : Place}
    (leftPlaced : left ∈ graph.placedTypes) (rightPlaced : right ∈ graph.placedTypes)
    (same : left.2.name = right.2.name) : left = right := by
  have names : (graph.placedTypes.map fun place => place.2.name).Nodup := by
    rw [DistinctNames, ← map_snd_placedTypes, List.map_map] at distinct
    exact distinct
  exact List.inj_on_of_nodup_map names leftPlaced rightPlaced same

end Declarations

namespace Generation

variable {graph : Declarations}

/-! ### What is registered can be reached

By induction on a run: a registration comes from a use that resolves to a type, and from there a
reference leads to the name that is registered. -/

/-- A declaration is reached that refers to a type of the given name. -/
def RefersFrom (graph : Declarations) (source : Place) (name : String) : Prop :=
  ∃ reached target, graph.Reaches source reached ∧ graph.Refers reached target ∧
    target.2.name = name

/-- What is referred to from the target of a use is referred to from its source. -/
theorem RefersFrom.of_uses {source next : Place} (uses : graph.Uses source next) {name : String}
    (refers : RefersFrom graph next name) : RefersFrom graph source name := by
  obtain ⟨reached, target, reaches, refers, named⟩ := refers
  exact ⟨reached, target, Relation.ReflTransGen.head uses reaches, refers, named⟩

/-- A cyclic name is one that a reached declaration refers to. -/
theorem refers_of_mem_cyclic {active : List String} {file : FileDeclarations}
    {decl : TypeDeclaration} {name : String}
    (marked : name ∈ (shapeSchema graph active file decl).cyclic) :
    RefersFrom graph (file, decl) name := by
  induction active, file, decl using uses_induction graph with
  | step active file decl ih =>
      rw [shapeSchema_cyclic] at marked
      obtain ⟨use, used, marked⟩ := List.mem_flatMap.1 marked
      obtain ⟨targetFile, target, found, busy | fresh⟩ := mem_cyclic_useOutcome.1 marked
      · obtain ⟨_, plain, rfl⟩ := busy
        exact ⟨(file, decl), (targetFile, target), Relation.ReflTransGen.refl,
          ⟨use, used, plain, found⟩, rfl⟩
      · obtain ⟨fresh, _, marked⟩ := fresh
        have uses : graph.Uses (file, decl) (targetFile, target) := ⟨use, used, found⟩
        exact (ih use used targetFile target found fresh marked).of_uses uses

/-- A registered identifier is the name of a declared type that has a schema, and a reached
    declaration refers to a type of that name. -/
theorem refers_of_mem_registrations {active : List String} {file : FileDeclarations}
    {decl : TypeDeclaration} {entry : String × Schema}
    (registered : entry ∈ (shapeSchema graph active file decl).registrations) :
    RefersFrom graph (file, decl) entry.1 ∧
      ∃ target ∈ graph.placedTypes, target.2.name = entry.1 ∧ target.2.mappable = true := by
  induction active, file, decl using uses_induction graph with
  | step active file decl ih =>
      rw [shapeSchema_registrations] at registered
      obtain ⟨use, used, registered⟩ := List.mem_flatMap.1 registered
      obtain ⟨targetFile, target, found, fresh, inner | own⟩ :=
        mem_registrations_useOutcome.1 registered
      all_goals have uses : graph.Uses (file, decl) (targetFile, target) := ⟨use, used, found⟩
      · obtain ⟨refers, declared⟩ := ih use used targetFile target found fresh inner
        exact ⟨refers.of_uses uses, declared⟩
      · obtain ⟨schema, value, referred, rfl⟩ := own
        refine ⟨?_, (targetFile, target), Declarations.mem_placedTypes_of_findType? found, rfl,
          mappable_of_value value⟩
        cases plain : use.flattened with
        | false =>
            exact ⟨(file, decl), (targetFile, target), Relation.ReflTransGen.refl,
              ⟨use, used, plain, found⟩, rfl⟩
        | true => exact (refers_of_mem_cyclic (referred plain)).of_uses uses

/-- What a component registers is its identifier or the name of a type that a reached declaration
    refers to. -/
theorem refers_of_registers (distinct : graph.DistinctNames) {root : Place}
    (placed : root ∈ graph.placedTypes) {id : String}
    (registers : (component graph root.1 root.2).Registers id) :
    root.2.mappable = true ∧
      (root.2.docs.componentId? = some id ∨
        root.2.docs.componentId?.isSome = true ∧ ∃ reached target, graph.Reaches root reached ∧
          graph.Refers reached target ∧ target.2.mappable = true ∧ target.2.name = id) := by
  -- The type that is referred to is the one that has the schema: they have the same name.
  have named : RefersFrom graph root id →
      (∃ target ∈ graph.placedTypes, target.2.name = id ∧ target.2.mappable = true) →
        ∃ reached target, graph.Reaches root reached ∧ graph.Refers reached target ∧
          target.2.mappable = true ∧ target.2.name = id := by
    rintro ⟨reached, target, reaches, refers, rfl⟩ ⟨declared, declaredPlaced, same, mappable⟩
    obtain ⟨use, used, plain, found⟩ := refers
    obtain rfl := distinct.eq_of_name_eq declaredPlaced
      (Declarations.mem_placedTypes_of_findType? found) same
    exact ⟨reached, declared, reaches, ⟨use, used, plain, found⟩, mappable, rfl⟩
  obtain ⟨schema, member⟩ := registers
  obtain ⟨componentId, made, declared, value, origin⟩ := mem_registrations_component.1 member
  have isComponent : root.2.docs.componentId?.isSome = true := by rw [declared]; rfl
  have mappable : root.2.mappable = true := mappable_of_value value
  refine ⟨mappable, ?_⟩
  rcases origin with inner | own | ⟨marked, own⟩
  · obtain ⟨refers, target⟩ := refers_of_mem_registrations inner
    exact Or.inr ⟨isComponent, named refers target⟩
  · cases own
    exact Or.inl declared
  · cases own
    exact Or.inr ⟨isComponent, named (refers_of_mem_cyclic marked) ⟨root, placed, rfl, mappable⟩⟩

/-! ### What can be reached is worked out

The converse needs that the generator does not miss a type where it stops at an active name. It was then
entered on the way, so each type that can be reached is visited in some context, and the uses of a type
that is visited are followed. -/

/-- Working out one declaration while some names are active leads to working out another one, which is
    then active as well. -/
def Enters (graph : Declarations) (source target : List String × Place) : Prop :=
  graph.Uses source.2 target.2 ∧ target.2.2.name ∉ source.1 ∧
    target.1 = target.2.2.name :: source.1

/-- The declarations that are worked out on the way from a component. -/
def Visits (graph : Declarations) (root : Place) (reached : List String × Place) : Prop :=
  Relation.ReflTransGen (Enters graph) ([root.2.name], root) reached

/-- An active name is that of a declaration that was entered on the way. -/
theorem visits_of_mem_active {root : Place} {reached : List String × Place}
    (visits : Visits graph root reached) :
    ∀ name ∈ reached.1, ∃ earlier, Visits graph root earlier ∧ earlier.2.2.name = name := by
  induction visits with
  | refl =>
      intro name member
      exact ⟨([root.2.name], root), Relation.ReflTransGen.refl, (List.mem_singleton.1 member).symm⟩
  | @tail before after path last ih =>
      intro name member
      rw [last.2.2] at member
      rcases List.mem_cons.1 member with own | earlier
      · exact ⟨after, path.tail last, own.symm⟩
      · exact ih name earlier

theorem Visits.reaches {root : Place} {reached : List String × Place}
    (visits : Visits graph root reached) : graph.Reaches root reached.2 := by
  induction visits with
  | refl => exact Relation.ReflTransGen.refl
  | tail _ last ih => exact ih.tail last.1

/-- Every declaration that can be reached is worked out: where the generator stops at an active name,
    the declaration of that name was entered before. -/
theorem visits_of_reaches (distinct : graph.DistinctNames) {root place : Place}
    (placed : root ∈ graph.placedTypes) (reaches : graph.Reaches root place) :
    ∃ active, Visits graph root (active, place) := by
  induction reaches with
  | refl => exact ⟨[root.2.name], Relation.ReflTransGen.refl⟩
  | @tail before after path last ih =>
      obtain ⟨active, visits⟩ := ih
      by_cases busy : after.2.name ∈ active
      · -- The declaration is not entered here, but one of its name was before, and that is the same.
        obtain ⟨earlier, entered, same⟩ := visits_of_mem_active visits _ busy
        have afterPlaced : after ∈ graph.placedTypes :=
          Declarations.Reaches.mem_placedTypes (path.tail last) placed
        have earlierPlaced := entered.reaches.mem_placedTypes placed
        obtain rfl := distinct.eq_of_name_eq earlierPlaced afterPlaced same
        exact ⟨earlier.1, entered⟩
      · exact ⟨after.2.name :: active, visits.tail ⟨last, busy, rfl⟩⟩

/-- What a declaration knows that was entered on the way is known at the beginning. -/
theorem known_of_visits {root : Place} {reached : List String × Place}
    (visits : Visits graph root reached) {id : String}
    (known : (shapeSchema graph reached.1 reached.2.1 reached.2.2).Known id) :
    (typeSchema graph root.1 root.2).Known id := by
  induction visits with
  | refl => exact known
  | @tail before after path last ih =>
      obtain ⟨⟨use, used, found⟩, fresh, active⟩ := last
      rw [active] at known
      exact ih (known_of_mem_uses used (known_of_target found fresh known))

/-- A declaration knows the name of a type with a schema that it refers to. -/
theorem known_of_refers (active : List String) {source target : Place}
    (refers : graph.Refers source target) (mappable : target.2.mappable = true) :
    (shapeSchema graph active source.1 source.2).Known target.2.name := by
  obtain ⟨use, used, plain, found⟩ := refers
  refine known_of_mem_uses used ?_
  -- An active name is noted as cyclic, and any other one is registered here.
  by_cases busy : target.2.name ∈ active
  · exact Or.inl (mem_cyclic_useOutcome.2
      ⟨target.1, target.2, found, Or.inl ⟨busy, plain, rfl⟩⟩)
  · obtain ⟨schema, value⟩ :=
      exists_value_of_mappable graph (target.2.name :: active) target.1 mappable
    exact Or.inr ⟨schema, mem_registrations_useOutcome.2
      ⟨target.1, target.2, found, busy, Or.inr ⟨schema, value, by simp [plain], rfl⟩⟩⟩

/-- A component registers the name of every type with a schema that a reached declaration refers
    to. -/
theorem registers_of_refers (distinct : graph.DistinctNames) {root reached target : Place}
    (placed : root ∈ graph.placedTypes) {id : String}
    (declared : root.2.docs.componentId? = some id) (rootMappable : root.2.mappable = true)
    (reaches : graph.Reaches root reached) (refers : graph.Refers reached target)
    (mappable : target.2.mappable = true) :
    (component graph root.1 root.2).Registers target.2.name := by
  obtain ⟨active, visits⟩ := visits_of_reaches distinct placed reaches
  have known := known_of_visits visits (known_of_refers active refers mappable)
  obtain ⟨schema, value⟩ := exists_value_of_mappable graph [root.2.name] root.1 rootMappable
  exact registers_of_known declared value known

end Generation

namespace Generator

/-- Where names are distinct, the defined identifiers are, whatever the policy, those of the components
    that have a schema, and the names of the types with a schema that are referred to by a declaration
    that such a component reaches. -/
theorem mem_ids_iff_reachable (graph : Declarations) (policy : RegistrationPolicy)
    (distinct : (graph.types.map (·.name)).Nodup) (id : String) :
    id ∈ (generateAll graph policy).registry.ids ↔
      (∃ root ∈ graph.placedTypes, root.2.mappable = true ∧
        root.2.docs.componentId? = some id) ∨
      ∃ root ∈ graph.placedTypes, root.2.mappable = true ∧
        root.2.docs.componentId?.isSome = true ∧
          ∃ reached target, graph.Reaches root reached ∧ graph.Refers reached target ∧
            target.2.mappable = true ∧ target.2.name = id := by
  rw [mem_ids_generateAll]
  constructor
  · rintro ⟨root, placed, registers⟩
    obtain ⟨mappable, own | reached⟩ := refers_of_registers distinct placed registers
    · exact Or.inl ⟨root, placed, mappable, own⟩
    · exact Or.inr ⟨root, placed, mappable, reached⟩
  · rintro (⟨root, placed, mappable, declared⟩ | ⟨root, placed, rootMappable, isComponent, reached⟩)
    · exact ⟨root, placed, registers_componentId graph root.1 declared mappable⟩
    · obtain ⟨reached, target, reaches, refers, mappable, rfl⟩ := reached
      obtain ⟨componentId, declared⟩ := Option.isSome_iff_exists.1 isComponent
      exact ⟨root, placed, registers_of_refers distinct placed declared rootMappable reaches refers
        mappable⟩

/-- A component whose only field splices another type. -/
def loopNode : TypeDeclaration where
  name := "Node"
  docs := ⟨["openapi:component schema Root"]⟩
  shape := .struct [⟨"part", true, true, none, .named ⟨"Part", []⟩, .empty⟩]

/-- The spliced type, which has a field of the component's type. -/
def loopPart : TypeDeclaration where
  name := "Part"
  docs := .empty
  shape := .struct [⟨"node", true, false, none, .indirect (.named ⟨"Node", []⟩), .empty⟩]

/-- The file of both types. -/
def loopFile : FileDeclarations where
  path := ⟨"loop.rs"⟩
  docs := .empty
  types := [loopNode, loopPart]
  functions := []

/-- The name of the component is defined besides its identifier, since the spliced type refers to it. -/
theorem mem_ids_loop :
    ((Declarations.types ⟨[loopFile]⟩).map (·.name)).Nodup ∧
      "Node" ∈ (generateAll ⟨[loopFile]⟩ .firstWins).registry.ids := by
  have distinct : ((Declarations.types ⟨[loopFile]⟩).map (·.name)).Nodup := by decide
  have uses : Declarations.Uses ⟨[loopFile]⟩ (loopFile, loopNode) (loopFile, loopPart) :=
    ⟨⟨⟨"Part", []⟩, true⟩, by decide, by decide +kernel⟩
  have refers : Declarations.Refers ⟨[loopFile]⟩ (loopFile, loopPart) (loopFile, loopNode) :=
    ⟨⟨⟨"Node", []⟩, false⟩, by decide, rfl, by decide +kernel⟩
  refine ⟨distinct, (mem_ids_iff_reachable ⟨[loopFile]⟩ .firstWins distinct "Node").2 ?_⟩
  exact Or.inr ⟨(loopFile, loopNode), by decide, rfl, by decide +kernel, (loopFile, loopPart),
    (loopFile, loopNode), Relation.ReflTransGen.single uses, refers, rfl, rfl⟩

end Generator

end SwaggerDocs
