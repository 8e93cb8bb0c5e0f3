/-
Module: SwaggerDocs.Proofs.Generation.Reordering
Purpose: The same declarations in another order. Where no two types have the same name, a name stands
  for the same declaration in either order, so that working out a declaration comes to the same value,
  cyclic names and registrations.
Main exports: Declarations.Reorders, Declarations.DistinctNames.findType?_eq_some_iff,
  Declarations.Reorders.looksUpAlike, Generation.mem_traceOf_reordered
-/
import Mathlib.Data.List.Perm.Basic
import SwaggerDocs.Proofs.Generation.Agreement
import SwaggerDocs.Proofs.Generation.Reachability

namespace SwaggerDocs

open Generation

/-- A file with its declarations in another order. -/
structure FileDeclarations.Reorders (file other : FileDeclarations) : Prop where
  path : file.path = other.path
  docs : file.docs = other.docs
  types : file.types.Perm other.types
  functions : file.functions.Perm other.functions

theorem FileDeclarations.Reorders.symm {file other : FileDeclarations} (reorders : file.Reorders other) :
    other.Reorders file where
  path := reorders.path.symm
  docs := reorders.docs.symm
  types := reorders.types.symm
  functions := reorders.functions.symm

section Files

variable {files others : List FileDeclarations}

theorem exists_reordered (reordered : List.Forall₂ FileDeclarations.Reorders files others)
    {file : FileDeclarations} (member : file ∈ files) : ∃ other ∈ others, file.Reorders other := by
  induction reordered with
  | nil => cases member
  | @cons first other rest later same _ ih =>
      rcases List.mem_cons.1 member with rfl | member
      · exact ⟨other, List.mem_cons_self, same⟩
      · obtain ⟨found, listed, same⟩ := ih member
        exact ⟨found, List.mem_cons_of_mem _ listed, same⟩

/-- All types of all files are the same, in some order. -/
theorem flatMap_types_perm (reordered : List.Forall₂ FileDeclarations.Reorders files others) :
    (files.flatMap (·.types)).Perm (others.flatMap (·.types)) := by
  induction reordered with
  | nil => exact List.Perm.refl _
  | cons same _ ih =>
      rw [List.flatMap_cons, List.flatMap_cons]
      exact same.types.append ih

end Files

namespace Declarations

/-- The same files in another order, each with its declarations in another order. -/
def Reorders (graph other : Declarations) : Prop :=
  ∃ files, graph.files.Perm files ∧ List.Forall₂ FileDeclarations.Reorders files other.files

variable {graph other : Declarations}

theorem Reorders.symm (reorders : graph.Reorders other) : other.Reorders graph := by
  obtain ⟨files, permuted, reordered⟩ := reorders
  obtain ⟨others, reordered, permuted⟩ := List.perm_comp_forall₂ permuted reordered
  refine ⟨others, permuted.symm, ?_⟩
  apply List.Forall₂.flip
  apply reordered.imp
  intro file other same
  exact same.symm

/-- A declared type is declared in a file of the same path in either order. -/
theorem Reorders.exists_placed (reorders : graph.Reorders other) {file : FileDeclarations}
    {decl : TypeDeclaration} (placed : (file, decl) ∈ graph.placedTypes) :
    ∃ file', (file', decl) ∈ other.placedTypes ∧ file'.path = file.path := by
  obtain ⟨files, permuted, reordered⟩ := reorders
  obtain ⟨inGraph, inFile⟩ := mem_placedTypes.1 placed
  obtain ⟨file', inOther, same⟩ := exists_reordered reordered (permuted.mem_iff.1 inGraph)
  refine ⟨file', mem_placedTypes.2 ⟨inOther, ?_⟩, same.path.symm⟩
  exact same.types.mem_iff.1 inFile

/-- Both sets of declarations have the same types, in some order. -/
theorem Reorders.types_perm (reorders : graph.Reorders other) : graph.types.Perm other.types := by
  obtain ⟨files, permuted, reordered⟩ := reorders
  exact (permuted.flatMap_right _).trans (flatMap_types_perm reordered)

/-- Names that are distinct in one order are so in the other. -/
theorem Reorders.distinctNames (reorders : graph.Reorders other) (distinct : graph.DistinctNames) :
    other.DistinctNames :=
  (reorders.types_perm.map _).nodup_iff.1 distinct

/-! ### Names

A look-up takes the first type of a name. With distinct names there is only one, and so the order has no
part in what is found. -/

theorem firstNamed?_isSome {name : String} {files : List FileDeclarations} {file : FileDeclarations}
    {decl : TypeDeclaration} (inFiles : file ∈ files) (inFile : decl ∈ file.types)
    (named : decl.name = name) : (firstNamed? name files).isSome = true := by
  induction files with
  | nil => cases inFiles
  | cons first rest ih =>
      rw [firstNamed?]
      cases here : first.typeNamed? name with
      | some found => rfl
      | none =>
          rcases List.mem_cons.1 inFiles with rfl | later
          · have absent := List.find?_eq_none.1 here decl inFile
            exact absurd named (by simpa using absent)
          · exact ih later

/-- Where names are distinct, a name stands for the one declaration that has it, in whatever file it
    is used. -/
theorem DistinctNames.findType?_eq_some_iff (distinct : graph.DistinctNames) {name : String}
    {path : Path} {file : FileDeclarations} {decl : TypeDeclaration} :
    graph.findType? name path = some (file, decl) ↔
      (file, decl) ∈ graph.placedTypes ∧ decl.name = name := by
  constructor
  · intro found
    obtain ⟨_, _, named⟩ := findType?_mem found
    exact ⟨mem_placedTypes_of_findType? found, named⟩
  · rintro ⟨placed, named⟩
    obtain ⟨inGraph, inFile⟩ := mem_placedTypes.1 placed
    have present : (graph.findType? name path).isSome = true := by
      rw [findType?]
      split
      · rfl
      · exact firstNamed?_isSome inGraph inFile named
    obtain ⟨target, found⟩ := Option.isSome_iff_exists.1 present
    obtain ⟨_, _, same⟩ := findType?_mem found
    have equal : target = (file, decl) :=
      distinct.eq_of_name_eq (mem_placedTypes_of_findType? found) placed (same.trans named.symm)
    rw [found, equal]

/-- With distinct names, a name is found in both orders as the same type in files of the same path. -/
theorem Reorders.findType?_eq_some (reorders : graph.Reorders other)
    (distinct : graph.DistinctNames) {name : String} {path : Path} {file : FileDeclarations}
    {decl : TypeDeclaration} (found : graph.findType? name path = some (file, decl)) :
    ∃ file', other.findType? name path = some (file', decl) ∧ file'.path = file.path := by
  obtain ⟨placed, named⟩ := distinct.findType?_eq_some_iff.1 found
  obtain ⟨file', placed', same⟩ := reorders.exists_placed placed
  exact ⟨file', (reorders.distinctNames distinct).findType?_eq_some_iff.2 ⟨placed', named⟩, same⟩

/-- A name that is not found in one order is not found in the other. -/
theorem Reorders.findType?_eq_none (reorders : graph.Reorders other)
    (distinct : graph.DistinctNames) {name : String} {path : Path}
    (missing : graph.findType? name path = none) : other.findType? name path = none := by
  cases found : other.findType? name path with
  | none => rfl
  | some target =>
      obtain ⟨_, back, _⟩ :=
        reorders.symm.findType?_eq_some (reorders.distinctNames distinct) found
      rw [missing] at back
      cases back

/-- In another order every name is looked up alike. -/
theorem Reorders.looksUpAlike (reorders : graph.Reorders other) (distinct : graph.DistinctNames)
    (name : String) : graph.LooksUpAlike other [] name := by
  intro usedIn
  apply Or.inl
  cases found : graph.findType? name usedIn with
  | none =>
      have missing := reorders.findType?_eq_none distinct found
      rw [target?_eq_none.2 found, target?_eq_none.2 missing]
  | some place =>
      obtain ⟨file', found', path⟩ := reorders.findType?_eq_some distinct found
      rw [target?_eq_some.2 ⟨_, found, rfl⟩, target?_eq_some.2 ⟨file', found', path⟩]

end Declarations

namespace Generation

variable {graph other : Declarations}

/-- In another order a component makes the same registrations. -/
theorem registrations_reordered (reorders : graph.Reorders other) (distinct : graph.DistinctNames)
    {file file' : FileDeclarations} (path : file'.path = file.path) (decl : TypeDeclaration) :
    (component graph file decl).registrations = (component other file' decl).registrations := by
  have alike (decl : TypeDeclaration) (use : Use) (_ : use ∈ decl.uses) :
      graph.LooksUpAlike other [] use.type.name := reorders.looksUpAlike distinct use.type.name
  have agrees := shapeSchema_agrees (fun decl _ => alike decl) [decl.name] file decl
    (List.nil_subset _) (alike decl) file' path
  exact (component_agrees agrees).registrations

/-- What one order registers, the other one registers, too. -/
theorem mem_traceOf_of_reorders (reorders : graph.Reorders other) (distinct : graph.DistinctNames)
    {entry : String × Schema} (member : entry ∈ traceOf graph graph.placedTypes) :
    entry ∈ traceOf other other.placedTypes := by
  obtain ⟨⟨file, decl⟩, placed, made⟩ := mem_traceOf.1 member
  obtain ⟨file', placed', path⟩ := reorders.exists_placed placed
  rw [registrations_reordered reorders distinct path] at made
  exact mem_traceOf.2 ⟨(file', decl), placed', made⟩

/-- In another order all components together make the same registrations. -/
theorem mem_traceOf_reordered (reorders : graph.Reorders other) (distinct : graph.DistinctNames)
    {entry : String × Schema} :
    entry ∈ traceOf graph graph.placedTypes ↔ entry ∈ traceOf other other.placedTypes := by
  constructor
  · exact mem_traceOf_of_reorders reorders distinct
  · exact mem_traceOf_of_reorders reorders.symm (reorders.distinctNames distinct)

end Generation

end SwaggerDocs
