/-
Module: SwaggerDocs.Proofs.Generation.Insertion
Purpose: Declarations that nothing uses. A type that is no component and whose name is not mentioned, a
  function that binds nothing, and a file of such declarations without an info block can stand anywhere
  among others: names that are mentioned are looked up as before, and what was inserted adds nothing of
  its own. So the document stays the same, even if an inserted type or file has the name or path of
  another one.
Main exports: Inserted, TypeDeclaration.mentions, Declarations.ExtendedTo, ExtendedTo.looksUpAlike,
  Built.document_extended
-/
import SwaggerDocs.Generation.Build
import SwaggerDocs.Proofs.Generation.Agreement
import SwaggerDocs.Proofs.Generation.Bindings
import SwaggerDocs.Proofs.Generation.Trace

namespace SwaggerDocs

open Generation

/-! ### Lists with insertions

Files, types and functions are lists with insertions. Each lemma says how one operation on lists passes
over them. -/

/-- A list arises from another one by insertions at any positions. The items that are kept may change as
    a relation says, and inserted ones meet a condition. -/
inductive Inserted {α : Type} (keeps : α → α → Prop) (new : α → Prop) : List α → List α → Prop where
  | nil : Inserted keeps new [] []
  | keep {a b : α} {as bs : List α} (same : keeps a b) (rest : Inserted keeps new as bs) :
      Inserted keeps new (a :: as) (b :: bs)
  | insert {b : α} {as bs : List α} (added : new b) (rest : Inserted keeps new as bs) :
      Inserted keeps new as (b :: bs)

namespace Inserted

variable {α β : Type} {keeps : α → α → Prop} {new : α → Prop} {as bs : List α}

/-- A list arises from itself without insertions. -/
theorem refl (keeps : α → α → Prop) (new : α → Prop) (same : ∀ a, keeps a a) (as : List α) :
    Inserted keeps new as as := by
  induction as with
  | nil => exact .nil
  | cons a rest ih => exact .keep (same a) ih

/-- Insertions that a search passes over do not change what it finds. -/
theorem find?_eq {p : α → Bool} (inserted : Inserted Eq new as bs)
    (passed : ∀ b, new b → p b = false) : bs.find? p = as.find? p := by
  induction inserted with
  | nil => rfl
  | keep same _ ih =>
      subst same
      rw [List.find?_cons, List.find?_cons, ih]
  | insert added _ ih =>
      rw [List.find?_cons, passed _ added]
      exact ih

/-- A choice that items keep takes out a list with insertions. -/
theorem filter {p : α → Bool} (inserted : Inserted keeps new as bs)
    (kept : ∀ a b, keeps a b → p a = p b) : Inserted keeps new (as.filter p) (bs.filter p) := by
  induction inserted with
  | nil => exact .nil
  | @keep a b _ _ same _ ih =>
      rw [List.filter_cons, List.filter_cons, kept a b same]
      split
      · exact .keep same ih
      · exact ih
  | insert added _ ih =>
      rw [List.filter_cons]
      split
      · exact .insert added ih
      · exact ih

/-- Insertions that add nothing do not change what a list is made into. -/
theorem flatMap_eq {f g : α → List β} (inserted : Inserted keeps new as bs)
    (kept : ∀ a ∈ as, ∀ b, keeps a b → g b = f a) (nothing : ∀ b, new b → g b = []) :
    bs.flatMap g = as.flatMap f := by
  induction inserted with
  | nil => rfl
  | @keep a b _ _ same _ ih =>
      rw [List.flatMap_cons, List.flatMap_cons, kept a List.mem_cons_self b same,
        ih fun other member => kept other (List.mem_cons_of_mem _ member)]
  | @insert b _ _ added _ ih =>
      rw [List.flatMap_cons, nothing b added]
      exact ih kept

/-- Insertions at which a fold stands still do not change its result. -/
theorem foldl_eq {f g : β → α → β} (inserted : Inserted keeps new as bs)
    (kept : ∀ a b, keeps a b → ∀ made, g made b = f made a)
    (still : ∀ b, new b → ∀ made, g made b = made) (start : β) :
    bs.foldl g start = as.foldl f start := by
  induction inserted generalizing start with
  | nil => rfl
  | @keep a b _ _ same _ ih =>
      rw [List.foldl_cons, List.foldl_cons, kept a b same]
      exact ih _
  | @insert b _ _ added _ ih =>
      rw [List.foldl_cons, still b added]
      exact ih start

end Inserted

/-! ### Unused declarations

A declaration is unused if no directive publishes it and no type mentions its name. What unused
declarations mention themselves is of no concern. -/

/-- The names of the types in a type. -/
def TypeUse.names : TypeUse → List String
  | .named type => [type.name]
  | .sequence item => item.names
  | .mapping value => value.names
  | .indirect inner => inner.names
  | .primitive _ | .any | .unsupported _ => []

/-- The names of the types in a declaration, those of hidden fields included. -/
def TypeDeclaration.mentions (decl : TypeDeclaration) : List String :=
  match decl.shape with
  | .struct fields => fields.flatMap (·.type.names)
  | .alias target => target.names
  | .enumeration _ | .unmappable _ => []

/-- The names of types that are mentioned anywhere. -/
def Declarations.mentions (graph : Declarations) : List String := graph.types.flatMap (·.mentions)

/-- A type without a component directive, whose name is not mentioned. -/
structure TypeDeclaration.Unused (graph : Declarations) (decl : TypeDeclaration) : Prop where
  noComponent : ∀ line ∈ decl.docs.lines, ∀ id, Directive.parseSchema? line ≠ some (.component id)
  unmentioned : decl.name ∉ graph.mentions

/-- A function without an accepted binding. -/
def FunctionDeclaration.Unbound (function : FunctionDeclaration) : Prop :=
  ∀ slot, ¬function.Binds slot

/-- A file without an info directive, in which nothing is used. -/
structure FileDeclarations.Unused (graph : Declarations) (file : FileDeclarations) : Prop where
  noInfo : ∀ line ∈ file.docs.lines, Directive.parseSpec? line = none
  types : ∀ decl ∈ file.types, decl.Unused graph
  functions : ∀ function ∈ file.functions, function.Unbound

/-- A file with further declarations, which are not used. -/
structure FileDeclarations.ExtendedTo (graph : Declarations) (file other : FileDeclarations) : Prop where
  path : other.path = file.path
  docs : other.docs = file.docs
  types : Inserted Eq (TypeDeclaration.Unused graph) file.types other.types
  functions : Inserted Eq FunctionDeclaration.Unbound file.functions other.functions

/-- The same declarations with further files and further declarations in the files, which are not used
    in the first ones. -/
def Declarations.ExtendedTo (graph other : Declarations) : Prop :=
  Inserted (FileDeclarations.ExtendedTo graph) (FileDeclarations.Unused graph) graph.files other.files

/-- A file arises from itself without further declarations. -/
theorem FileDeclarations.ExtendedTo.refl (graph : Declarations) (file : FileDeclarations) :
    file.ExtendedTo graph file where
  path := rfl
  docs := rfl
  types := Inserted.refl _ _ (fun _ => rfl) _
  functions := Inserted.refl _ _ (fun _ => rfl) _

/-! ### What is mentioned

Names are looked up only if they are mentioned. Unused types are of other names, and so they are never
found in place of a used one. -/

/-- A type that is used is mentioned. -/
theorem TypeUse.mem_names_of_use? {type : TypeUse} {embedded : Bool} {use : Use}
    (resolves : type.use? embedded = some use) : use.type.name ∈ type.names := by
  induction type generalizing embedded with
  | named type =>
      obtain ⟨_, rfl⟩ := use?_named_eq_some.1 resolves
      exact List.mem_singleton_self _
  | sequence item ih => exact ih resolves
  | mapping value ih => exact ih resolves
  | indirect inner ih => exact ih resolves
  | primitive kind => cases resolves
  | any => cases resolves
  | unsupported kind => cases resolves

/-- A declaration mentions what it uses. -/
theorem TypeDeclaration.mem_mentions_of_use {decl : TypeDeclaration} {use : Use}
    (used : use ∈ decl.uses) : use.type.name ∈ decl.mentions := by
  rw [TypeDeclaration.uses] at used
  rw [TypeDeclaration.mentions]
  cases shape : decl.shape with
  | struct fields =>
      rw [shape] at used
      obtain ⟨field, listed, resolves⟩ := List.mem_filterMap.1 used
      rw [Field.use?] at resolves
      split at resolves
      · exact List.mem_flatMap.2 ⟨field, listed, TypeUse.mem_names_of_use? resolves⟩
      · cases resolves
  | «alias» target =>
      rw [shape] at used
      exact TypeUse.mem_names_of_use? (Option.mem_toList.1 used)
  | enumeration names =>
      rw [shape] at used
      cases used
  | unmappable reason =>
      rw [shape] at used
      cases used

namespace TypeDeclaration.Unused

variable {graph : Declarations} {decl : TypeDeclaration}

/-- An unused type is no component. -/
theorem componentId?_eq_none (unused : decl.Unused graph) : decl.docs.componentId? = none := by
  rw [Documentation.componentId?, List.getLast?_eq_none_iff, List.filterMap_eq_nil_iff]
  intro line listed
  cases parsed : Directive.parseSchema? line with
  | none => rfl
  | some directive =>
      cases directive with
      | component id => exact absurd parsed (unused.noComponent line listed id)
      | «example» text => rfl
      | format text => rfl
      | default text => rfl

/-- So it registers nothing, whatever the other declarations are. -/
theorem registrations_eq_nil (unused : decl.Unused graph) (other : Declarations)
    (file : FileDeclarations) : (component other file decl).registrations = [] := by
  rw [component_of_none unused.componentId?_eq_none]
  rfl

/-- Its name is none of those that are looked up. -/
theorem name_ne (unused : decl.Unused graph) {name : String} (mentioned : name ∈ graph.mentions) :
    decide (decl.name = name) = false := by
  rw [decide_eq_false_iff_not]
  rintro rfl
  exact unused.unmentioned mentioned

end TypeDeclaration.Unused

/-- A function without a binding leaves the paths as they are. -/
theorem FunctionDeclaration.Unbound.bindFunction_eq {function : FunctionDeclaration}
    (unbound : function.Unbound) (files : ExampleFiles) (source : Path) (paths : Paths) :
    bindFunction files source paths function = paths := by
  have nothing : bindings function.docs = [] := by
    apply List.eq_nil_iff_forall_not_mem.2
    intro slot bound
    exact unbound slot (mem_bindings.1 bound)
  rw [bindFunction, nothing]
  rfl

/-- An unused file describes no info block. -/
theorem FileDeclarations.Unused.derive?_eq_none {graph : Declarations} {file : FileDeclarations}
    (unused : file.Unused graph) : Info.derive? file.docs = none := by
  have noVersion : file.docs.version? = none := by
    rw [Documentation.version?, List.getLast?_eq_none_iff, List.filterMap_eq_nil_iff]
    intro line listed
    rw [unused.noInfo line listed]
    rfl
  rw [Info.derive?, noVersion]
  rfl

/-! ### What mentioned names stand for

A look-up asks the files of a path first, and then all files. Insertions are passed over in both. -/

/-- A name stands for the first type that has it, in the files of the path or else in all files. -/
theorem Declarations.target?_eq_or (graph : Declarations) (name : String) (usedIn : Path) :
    graph.target? name usedIn =
      ((firstNamed? name (graph.files.filter fun file => file.path.same usedIn)).map
        fun place => (place.1.path, place.2)).or
          ((firstNamed? name graph.files).map fun place => (place.1.path, place.2)) := by
  rw [target?, findType?]
  cases firstNamed? name (graph.files.filter fun file => file.path.same usedIn) with
  | none => rfl
  | some place => rfl

section LookUp

variable {graph : Declarations} {name : String} (mentioned : name ∈ graph.mentions)
include mentioned

/-- Within a file, a mentioned name still stands for the same type. -/
theorem FileDeclarations.ExtendedTo.typeNamed?_eq {file other : FileDeclarations}
    (extended : file.ExtendedTo graph other) : other.typeNamed? name = file.typeNamed? name :=
  extended.types.find?_eq fun _ unused => unused.name_ne mentioned

/-- In an unused file a mentioned name stands for nothing. -/
theorem FileDeclarations.Unused.typeNamed?_eq_none {file : FileDeclarations}
    (unused : file.Unused graph) : file.typeNamed? name = none := by
  rw [typeNamed?, List.find?_eq_none]
  intro decl declared
  rw [(unused.types decl declared).name_ne mentioned]
  exact Bool.false_ne_true

namespace Declarations

/-- The first type of a mentioned name is the one that it was before the insertions. -/
theorem firstNamed?_inserted {files others : List FileDeclarations}
    (inserted : Inserted (FileDeclarations.ExtendedTo graph) (FileDeclarations.Unused graph) files
      others) :
    (firstNamed? name others).map (fun place => (place.1.path, place.2)) =
      (firstNamed? name files).map fun place => (place.1.path, place.2) := by
  induction inserted with
  | nil => rfl
  | @keep file other _ _ extended _ ih =>
      rw [firstNamed?, firstNamed?, extended.typeNamed?_eq mentioned]
      cases file.typeNamed? name with
      | none => exact ih
      | some decl => simp only [Option.map_some, extended.path]
  | insert unused _ ih =>
      rw [firstNamed?, unused.typeNamed?_eq_none mentioned]
      exact ih

/-- A mentioned name is looked up alike after insertions. -/
theorem ExtendedTo.looksUpAlike {other : Declarations} (extended : graph.ExtendedTo other) :
    graph.LooksUpAlike other [] name := by
  intro usedIn
  apply Or.inl
  have ofPath := firstNamed?_inserted mentioned (extended.filter fun file other same =>
    congrArg (fun path => path.same usedIn) same.path.symm)
  have anywhere := firstNamed?_inserted mentioned extended
  rw [target?_eq_or, target?_eq_or, ofPath, anywhere]

end Declarations

end LookUp

/-! ### Documents

The document is made of three parts, and none of them sees the insertions. -/

namespace Declarations.ExtendedTo

variable {graph other : Declarations} (extended : graph.ExtendedTo other)
include extended

/-- A component makes the same registrations after insertions. -/
theorem registrations_eq {file file' : FileDeclarations} (path : file'.path = file.path)
    {decl : TypeDeclaration} (declared : decl ∈ graph.types) :
    (component other file' decl).registrations = (component graph file decl).registrations := by
  have alike (decl : TypeDeclaration) (declared : decl ∈ graph.types) (use : Use)
      (used : use ∈ decl.uses) : graph.LooksUpAlike other [] use.type.name :=
    extended.looksUpAlike (List.mem_flatMap.2 ⟨decl, declared, decl.mem_mentions_of_use used⟩)
  have agrees := shapeSchema_agrees alike [decl.name] file decl (List.nil_subset _)
    (alike decl declared) file' path
  exact (component_agrees agrees).registrations.symm

/-- The same registrations come in the same order. -/
theorem traceOf_eq : traceOf other other.placedTypes = traceOf graph graph.placedTypes := by
  have byFile (graph : Declarations) : traceOf graph graph.placedTypes =
      graph.files.flatMap fun file => file.types.flatMap fun decl =>
        (component graph file decl).registrations := by
    simp only [traceOf, placedTypes, List.flatMap_assoc, List.flatMap_map]
  rw [byFile, byFile]
  apply Inserted.flatMap_eq extended
  · intro file inGraph file' same
    apply same.types.flatMap_eq
    · rintro decl declared _ rfl
      exact extended.registrations_eq same.path (List.mem_flatMap.2 ⟨file, inGraph, declared⟩)
    · intro decl unused
      exact unused.registrations_eq_nil other file'
  · intro file unused
    rw [List.flatMap_eq_nil_iff]
    intro decl declared
    exact (unused.types decl declared).registrations_eq_nil other file

/-- The last file that describes an info block is the same one. -/
theorem info?_eq : other.info? = graph.info? := by
  rw [info?, info?, List.filterMap_eq_flatMap_toList, List.filterMap_eq_flatMap_toList]
  congr 1
  apply Inserted.flatMap_eq extended
  · intro file _ file' same
    rw [same.docs]
  · intro file unused
    rw [unused.derive?_eq_none]
    rfl

/-- The same operations are bound. -/
theorem bindAll_eq (files : ExampleFiles) (paths : Paths) :
    bindAll files other paths = bindAll files graph paths := by
  rw [bindAll, bindAll]
  apply Inserted.foldl_eq extended
  · intro file file' same made
    apply same.functions.foldl_eq
    · rintro function _ rfl made
      rw [same.path]
    · intro function unbound made
      exact unbound.bindFunction_eq files file'.path made
  · intro file unused made
    have still : file.functions.foldl (bindFunction files file.path) made =
        file.functions.foldl (fun paths _ => paths) made := by
      apply List.foldl_ext
      intro paths function declared
      exact (unused.functions function declared).bindFunction_eq files file.path paths
    exact still.trans (List.foldl_fixed file.functions)

end Declarations.ExtendedTo

namespace Built

/-- Declarations that are inserted and not used leave the document as it is. -/
theorem document_extended {graph other : Declarations} (extended : graph.ExtendedTo other)
    (policy : RegistrationPolicy) (files : ExampleFiles) :
    (ofDeclarations policy files other).document = (ofDeclarations policy files graph).document := by
  rw [ofDeclarations, ofDeclarations]
  simp only [Generator.registry_generateAll, extended.traceOf_eq, extended.info?_eq,
    extended.bindAll_eq]

/-! ### Another file of the same path

A component uses a type of its own file. A file of the same path is put before it, in which the name of
the component is declared once more, and a function that binds nothing is added. -/

/-- A component that uses another type. -/
def orderComponent : TypeDeclaration where
  name := "Order"
  docs := ⟨["openapi:component schema Order"]⟩
  shape := .struct [⟨"item", true, false, none, .named ⟨"Item", []⟩, .empty⟩]

/-- The type that it uses. -/
def itemType : TypeDeclaration where
  name := "Item"
  docs := .empty
  shape := .struct [⟨"name", true, false, none, .primitive .string, .empty⟩]

/-- The file of the component. -/
def orderFile : FileDeclarations where
  path := ⟨"orders.rs"⟩
  docs := .empty
  types := [orderComponent, itemType]
  functions := []

/-- A type of the name of the component. -/
def otherOrder : TypeDeclaration where
  name := "Order"
  docs := ⟨["The order of two items."]⟩
  shape := .enumeration ["Less", "Equal", "Greater"]

/-- A function that binds nothing. -/
def compareOrders : FunctionDeclaration where
  name := "compare"
  docs := ⟨["Compares two orders."]⟩

/-- Another file of the same path. -/
def otherOrderFile : FileDeclarations where
  path := ⟨"orders.rs"⟩
  docs := .empty
  types := [otherOrder]
  functions := [compareOrders]

/-- The file of the component with the function. -/
def orderFileWithFunction : FileDeclarations := { orderFile with functions := [compareOrders] }

/-- The second type of the name and the function leave the document of the component as it is. -/
theorem document_extended_orders :
    Declarations.ExtendedTo ⟨[orderFile]⟩ ⟨[otherOrderFile, orderFileWithFunction]⟩ ∧
      (ofDeclarations .firstWins (fun _ => none) ⟨[otherOrderFile, orderFileWithFunction]⟩).document =
        (ofDeclarations .firstWins (fun _ => none) ⟨[orderFile]⟩).document := by
  have prose : Directive.parseSchema? "The order of two items." = none := by decide +kernel
  have unbound : compareOrders.Unbound := by
    rintro slot ⟨line, listed, binds⟩
    rw [List.mem_singleton.1 listed] at binds
    have parsed : Directive.parseBinding? "Compares two orders." = none := by decide +kernel
    cases parsed.symm.trans binds
  have unused : otherOrder.Unused ⟨[orderFile]⟩ := by
    refine ⟨?_, by decide⟩
    intro line listed id declared
    rw [List.mem_singleton.1 listed, prose] at declared
    cases declared
  have fileUnused : otherOrderFile.Unused ⟨[orderFile]⟩ := by
    refine ⟨List.forall_mem_nil _, ?_, ?_⟩
    · intro decl declared
      rw [List.mem_singleton.1 declared]
      exact unused
    · intro function declared
      rw [List.mem_singleton.1 declared]
      exact unbound
  have fileExtended : orderFile.ExtendedTo ⟨[orderFile]⟩ orderFileWithFunction :=
    { FileDeclarations.ExtendedTo.refl ⟨[orderFile]⟩ orderFile with
      functions := .insert unbound .nil }
  have extended : Declarations.ExtendedTo ⟨[orderFile]⟩ ⟨[otherOrderFile, orderFileWithFunction]⟩ :=
    .insert fileUnused (.keep fileExtended .nil)
  exact ⟨extended, document_extended extended .firstWins fun _ => none⟩

end Built

end SwaggerDocs
