/-
Module: SwaggerDocs.Declarations.Basic
Purpose: What a set of source files declares: types with their shapes, functions, and the
  documentation of each. A name is looked up first in the file that uses it and then in all files in
  order.
Main exports: TypeUse, Shape, Field, TypeDeclaration, FileDeclarations, Declarations,
  Declarations.findType?
-/
import SwaggerDocs.Docs.Documentation
import SwaggerDocs.Files.Path

namespace SwaggerDocs

/-- The built-in types that are written by their names. -/
inductive Primitive where
  | bool
  | i8
  | i16
  | i32
  | i64
  | i128
  | isize
  | u8
  | u16
  | u32
  | u64
  | u128
  | usize
  | f32
  | f64
  | char
  | string
deriving Repr, DecidableEq, Inhabited

/-- A name with the path segments before it. -/
structure TypeName where
  name : String
  qualifier : List String
deriving Repr, DecidableEq

/-- A type as it is used by a field, an alias or another type. -/
inductive TypeUse where
  | primitive (kind : Primitive)
  | named (type : TypeName)
  | sequence (item : TypeUse)
  /-- A map by keys that are not kept. -/
  | mapping (value : TypeUse)
  /-- An optional value, a reference or another wrapper around one value. -/
  | indirect (inner : TypeUse)
  /-- Any value. -/
  | any
  | unsupported (kind : String)
deriving Repr, DecidableEq, Inhabited

/-- A field of a struct. -/
structure Field where
  name : String
  /-- The field is visible outside. -/
  exported : Bool
  /-- The properties of the field's type are spliced into the struct. -/
  embedded : Bool
  /-- The name under which the field is written, if it is not its own. -/
  key : Option String
  type : TypeUse
  docs : Documentation
deriving Repr, DecidableEq

namespace Field

/-- The name of the property that a field contributes. -/
def propertyName (field : Field) : String := field.key.getD field.name

/-- Only exported and embedded fields contribute to a schema. -/
def contributes (field : Field) : Bool := field.exported || field.embedded

end Field

/-- The shape of a declared type. -/
inductive Shape where
  | struct (fields : List Field)
  | alias (target : TypeUse)
  /-- An enumeration of names. -/
  | enumeration (names : List String)
  /-- A shape without a schema, and the reason. -/
  | unmappable (reason : String)
deriving Repr, DecidableEq

/-- A declared type. -/
structure TypeDeclaration where
  name : String
  docs : Documentation
  shape : Shape
deriving Repr, DecidableEq

/-- A declared function. -/
structure FunctionDeclaration where
  name : String
  docs : Documentation
deriving Repr, DecidableEq

/-- The declarations of one file. -/
structure FileDeclarations where
  path : Path
  docs : Documentation
  types : List TypeDeclaration
  functions : List FunctionDeclaration
deriving Repr, DecidableEq

namespace FileDeclarations

/-- The first type of a name in a file. -/
def typeNamed? (file : FileDeclarations) (name : String) : Option TypeDeclaration :=
  file.types.find? fun decl => decl.name = name

end FileDeclarations

/-- The declarations of all files, in the order in which the files were given. -/
structure Declarations where
  files : List FileDeclarations
deriving Repr, DecidableEq

namespace Declarations

/-- The first type of a name in a list of files, with its file. -/
def firstNamed? (name : String) : List FileDeclarations → Option (FileDeclarations × TypeDeclaration)
  | [] => none
  | file :: rest =>
      match file.typeNamed? name with
      | some decl => some (file, decl)
      | none => firstNamed? name rest

/-- The declaration that a name stands for in the file of a path. A declaration in a file of that
    path wins over one elsewhere. -/
def findType? (graph : Declarations) (name : String) (usedIn : Path) :
    Option (FileDeclarations × TypeDeclaration) :=
  match firstNamed? name (graph.files.filter fun file => file.path.same usedIn) with
  | some found => some found
  | none => firstNamed? name graph.files

/-- All declared types, in the order of files and declarations. -/
def types (graph : Declarations) : List TypeDeclaration := graph.files.flatMap (·.types)

/-- All declared types with their files, in the order of files and declarations. -/
def placedTypes (graph : Declarations) : List (FileDeclarations × TypeDeclaration) :=
  graph.files.flatMap fun file => file.types.map fun decl => (file, decl)

theorem mem_placedTypes {graph : Declarations} {file : FileDeclarations} {decl : TypeDeclaration} :
    (file, decl) ∈ graph.placedTypes ↔ file ∈ graph.files ∧ decl ∈ file.types := by
  simp [placedTypes]

theorem name_mem_of_placed {graph : Declarations} {file : FileDeclarations}
    {decl : TypeDeclaration} (placed : (file, decl) ∈ graph.placedTypes) :
    decl.name ∈ graph.types.map (·.name) := by
  obtain ⟨inGraph, inFile⟩ := mem_placedTypes.1 placed
  exact List.mem_map_of_mem (List.mem_flatMap.2 ⟨file, inGraph, inFile⟩)

theorem map_snd_placedTypes (graph : Declarations) :
    graph.placedTypes.map Prod.snd = graph.types := by
  simp [placedTypes, types, List.map_flatMap, Function.comp_def]

theorem firstNamed?_mem {name : String} {files : List FileDeclarations}
    {file : FileDeclarations} {decl : TypeDeclaration}
    (h : firstNamed? name files = some (file, decl)) :
    file ∈ files ∧ decl ∈ file.types ∧ decl.name = name := by
  induction files with
  | nil => simp [firstNamed?] at h
  | cons f rest ih =>
    simp only [firstNamed?] at h
    split at h
    · rename_i d hd
      simp only [Option.some.injEq, Prod.mk.injEq] at h
      obtain ⟨rfl, rfl⟩ := h
      have hmem := List.mem_of_find?_eq_some hd
      have hname := List.find?_some hd
      exact ⟨List.mem_cons_self, hmem, by simpa using hname⟩
    · obtain ⟨h1, h2⟩ := ih h
      exact ⟨List.mem_cons_of_mem _ h1, h2⟩

theorem findType?_mem {graph : Declarations} {name : String} {usedIn : Path}
    {file : FileDeclarations} {decl : TypeDeclaration}
    (h : graph.findType? name usedIn = some (file, decl)) :
    file ∈ graph.files ∧ decl ∈ file.types ∧ decl.name = name := by
  simp only [findType?] at h
  split at h
  · rename_i found hfound
    simp only [Option.some.injEq] at h
    subst h
    obtain ⟨h1, h2⟩ := firstNamed?_mem hfound
    exact ⟨(List.mem_filter.1 h1).1, h2⟩
  · exact firstNamed?_mem h

theorem findType?_mem_types {graph : Declarations} {name : String} {usedIn : Path}
    {file : FileDeclarations} {decl : TypeDeclaration}
    (h : graph.findType? name usedIn = some (file, decl)) :
    decl ∈ graph.types ∧ decl.name = name := by
  obtain ⟨h1, h2, h3⟩ := findType?_mem h
  exact ⟨List.mem_flatMap.2 ⟨file, h1, h2⟩, h3⟩

end Declarations

end SwaggerDocs
