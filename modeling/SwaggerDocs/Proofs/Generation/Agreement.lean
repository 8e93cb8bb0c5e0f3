/-
Module: SwaggerDocs.Proofs.Generation.Agreement
Purpose: Two sets of declarations that look names up alike. Of the file of a declaration only the path
  counts for a run, and of the declarations only what the names that are used stand for; so working out a
  declaration comes to the same value, cyclic names and registrations in both. A name that is being
  worked out may even stand for different types, since the generator stops at it.
Main exports: Declarations.target?, Declarations.LooksUpAlike, Outcome.Agrees, shapeSchema_value_congr,
  shapeSchema_agrees, component_agrees
-/
import SwaggerDocs.Proofs.Generation.Values

namespace SwaggerDocs

open Generation

namespace Declarations

/-- The type that a name stands for in a file, and the path of the file in which it is declared. -/
def target? (graph : Declarations) (name : String) (usedIn : Path) : Option (Path × TypeDeclaration) :=
  (graph.findType? name usedIn).map fun place => (place.1.path, place.2)

/-- In files of any path a name stands for the same type in two sets of declarations, or for none in
    both. If it is being worked out, it need only stand for some type in both. -/
def LooksUpAlike (graph other : Declarations) (active : List String) (name : String) : Prop :=
  ∀ usedIn, graph.target? name usedIn = other.target? name usedIn ∨
    (name ∈ active ∧ (graph.target? name usedIn).isSome ∧ (other.target? name usedIn).isSome)

variable {graph other : Declarations} {name : String} {usedIn : Path}

/-- A name stands for no type where none is found. -/
theorem target?_eq_none : graph.target? name usedIn = none ↔ graph.findType? name usedIn = none :=
  Option.map_eq_none_iff

/-- What a name stands for is the declaration that is found, with the path of its file in place of the
    file. -/
theorem target?_eq_some {path : Path} {decl : TypeDeclaration} :
    graph.target? name usedIn = some (path, decl) ↔
      ∃ file, graph.findType? name usedIn = some (file, decl) ∧ file.path = path := by
  simp [target?]

/-- A name that stands for a type stands for one that has it. -/
theorem exists_named_of_isSome (present : (graph.target? name usedIn).isSome = true) :
    ∃ file decl, graph.findType? name usedIn = some (file, decl) ∧ decl.name = name := by
  rw [target?, Option.isSome_map] at present
  obtain ⟨⟨file, decl⟩, found⟩ := Option.isSome_iff_exists.1 present
  obtain ⟨_, _, named⟩ := findType?_mem found
  exact ⟨file, decl, found, named⟩

/-- A name that is looked up alike stays so while more types are being worked out. -/
theorem LooksUpAlike.mono {active more : List String} (alike : graph.LooksUpAlike other active name)
    (subset : active ⊆ more) : graph.LooksUpAlike other more name := by
  intro usedIn
  rcases alike usedIn with same | ⟨busy, both⟩
  · exact Or.inl same
  · exact Or.inr ⟨subset busy, both⟩

end Declarations

namespace Generation

/-- The value of a declaration depends on what its uses stand for. -/
theorem shapeSchema_value_congr {graph graph' : Declarations} {active active' : List String}
    {file file' : FileDeclarations} (decl : TypeDeclaration)
    (uses : ∀ use ∈ decl.uses,
      (useOutcome graph active file use).value = (useOutcome graph' active' file' use).value) :
    (shapeSchema graph active file decl).value = (shapeSchema graph' active' file' decl).value := by
  rw [value_shapeSchema, value_shapeSchema]
  exact schemaBy_congr uses

/-- Two runs come to the same, warnings apart. -/
structure Outcome.Agrees {α : Type} (left right : Outcome α) : Prop where
  value : left.value = right.value
  cyclic : left.cyclic = right.cyclic
  registrations : left.registrations = right.registrations

variable {graph other : Declarations} {active : List String} {file file' : FileDeclarations}

/-- A use comes to the same in both if its name is looked up alike and its target comes to the same. -/
theorem useOutcome_agrees (path : file'.path = file.path) {use : Use}
    (alike : graph.LooksUpAlike other active use.type.name)
    (targets : ∀ targetFile target,
      graph.findType? use.type.name file.path = some (targetFile, target) →
        target.name ∉ active → ∀ targetFile', targetFile'.path = targetFile.path →
          (shapeSchema graph (target.name :: active) targetFile target).Agrees
            (shapeSchema other (target.name :: active) targetFile' target)) :
    (useOutcome graph active file use).Agrees (useOutcome other active file' use) := by
  rw [useOutcome, useOutcome]
  rcases alike file.path with same | ⟨busy, here, there⟩
  · cases found : graph.findType? use.type.name file.path with
    | none =>
        rw [Declarations.target?_eq_none.2 found] at same
        have missing := Declarations.target?_eq_none.1 same.symm
        rw [namedUse_of_missing found, namedUse_of_missing (path ▸ missing)]
        exact ⟨rfl, rfl, rfl⟩
    | some place =>
        obtain ⟨targetFile, target⟩ := place
        rw [Declarations.target?_eq_some.2 ⟨targetFile, found, rfl⟩] at same
        obtain ⟨targetFile', found', samePath⟩ := Declarations.target?_eq_some.1 same.symm
        rw [← path] at found'
        by_cases busy : target.name ∈ active
        · rw [namedUse_of_active found busy, namedUse_of_active found' busy]
          split
          · exact ⟨rfl, rfl, rfl⟩
          · exact ⟨rfl, rfl, rfl⟩
        · have agrees := targets targetFile target found busy targetFile' samePath
          rw [namedUse_of_fresh found busy, namedUse_of_fresh found' busy]
          refine ⟨?_, ?_, ?_⟩
          · simp only [agrees.value, agrees.cyclic]
          · simp only [agrees.cyclic]
          · have inner := agrees.registrations
            rw [Outcome.registrations, Outcome.registrations] at inner ⊢
            simp only [List.filterMap_append, inner, agrees.value, agrees.cyclic]
  · -- The name is active, so neither of the types is worked out.
    obtain ⟨_, target, found, named⟩ := Declarations.exists_named_of_isSome here
    obtain ⟨_, target', found', named'⟩ := Declarations.exists_named_of_isSome there
    rw [← path] at found'
    rw [namedUse_of_active found (named ▸ busy), namedUse_of_active found' (named' ▸ busy), named,
      named']
    split
    · exact ⟨rfl, rfl, rfl⟩
    · exact ⟨rfl, rfl, rfl⟩

/-- A declaration comes to the same in both if the names that it uses, and those that all declared types
    use, are looked up alike. -/
theorem shapeSchema_agrees {busy : List String}
    (declared : ∀ decl ∈ graph.types, ∀ use ∈ decl.uses,
      graph.LooksUpAlike other busy use.type.name)
    (active : List String) (file : FileDeclarations) (decl : TypeDeclaration) :
    busy ⊆ active → (∀ use ∈ decl.uses, graph.LooksUpAlike other busy use.type.name) →
      ∀ file', file'.path = file.path →
        (shapeSchema graph active file decl).Agrees (shapeSchema other active file' decl) := by
  induction active, file, decl using uses_induction graph with
  | step active file decl ih =>
      intro subset own file' path
      have uses : ∀ use ∈ decl.uses,
          (useOutcome graph active file use).Agrees (useOutcome other active file' use) := by
        intro use used
        apply useOutcome_agrees path ((own use used).mono subset)
        intro targetFile target found fresh
        apply ih use used targetFile target found fresh (List.subset_cons_of_subset _ subset)
        exact declared target (Declarations.findType?_mem_types found).1
      refine ⟨?_, ?_, ?_⟩
      · apply shapeSchema_value_congr
        intro use used
        exact (uses use used).value
      · rw [shapeSchema_cyclic, shapeSchema_cyclic]
        apply List.flatMap_congr
        intro use used
        exact (uses use used).cyclic
      · rw [shapeSchema_registrations, shapeSchema_registrations]
        apply List.flatMap_congr
        intro use used
        exact (uses use used).registrations

/-- A component comes to the same in both if its type does. -/
theorem component_agrees {decl : TypeDeclaration}
    (made : (typeSchema graph file decl).Agrees (typeSchema other file' decl)) :
    (component graph file decl).Agrees (component other file' decl) := by
  cases declared : decl.docs.componentId? with
  | none =>
      rw [component_of_none declared, component_of_none declared]
      exact ⟨rfl, rfl, rfl⟩
  | some id =>
      cases value : (typeSchema graph file decl).value with
      | none =>
          rw [component_of_unmapped declared value,
            component_of_unmapped declared (made.value ▸ value)]
          exact made
      | some schema =>
          rw [component_of_mapped declared value,
            component_of_mapped declared (made.value ▸ value)]
          refine ⟨rfl, ?_, ?_⟩
          · simp only [made.cyclic]
          · have inner := made.registrations
            rw [Outcome.registrations, Outcome.registrations] at inner ⊢
            simp only [List.filterMap_append, inner, made.cyclic]

end Generation

end SwaggerDocs
