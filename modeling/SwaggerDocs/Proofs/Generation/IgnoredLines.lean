/-
Module: SwaggerDocs.Proofs.Generation.IgnoredLines
Purpose: A malformed directive: a line with the shape of a directive that no reader accepts, because of a
  misspelled word, a wrong argument or an unknown method. It is kept out of the free text and the other
  lines are read as before, wherever in the documentation of a file, a type, a field or a function it
  stands. So the document is the same without it. There is at most one warning more, about a function
  that the line would bind to a method that documents do not know.
Main exports: Directive.Malformed, Declarations.LineInserted, LineInserted.readsAs, GrownBy,
  bindAllWarnings_grown, Built.malformed_directive_ignored
-/
import SwaggerDocs.Proofs.Docs.Separation
import SwaggerDocs.Proofs.Generation.Wording

namespace SwaggerDocs

open Generation

/-! ### Inserting a line

One line at one place. The place is given level by level: a file among the files, a declaration in it, a
field of that, and a position in the block. -/

/-- One item of a list is changed, at any position. -/
def OneChanged {α : Type} (change : α → α → Prop) (items others : List α) : Prop :=
  ∃ before item other after, change item other ∧ items = before ++ item :: after ∧
    others = before ++ other :: after

/-- A line is inserted at any position of a block. -/
def Documentation.LineInserted (line : String) (docs other : Documentation) : Prop :=
  ∃ before after, docs.lines = before ++ after ∧ other.lines = before ++ line :: after

/-- A line is inserted into the documentation of a field. -/
def Field.LineInserted (line : String) (field other : Field) : Prop :=
  ∃ docs, field.docs.LineInserted line docs ∧ other = { field with docs := docs }

/-- A line is inserted into the documentation of a type, or of one of its fields. -/
inductive TypeDeclaration.LineInserted (line : String) : TypeDeclaration → TypeDeclaration → Prop where
  | docs {decl : TypeDeclaration} {docs : Documentation}
      (inserted : decl.docs.LineInserted line docs) :
      LineInserted line decl { decl with docs := docs }
  | field {decl : TypeDeclaration} {fields others : List Field} (shape : decl.shape = .struct fields)
      (inserted : OneChanged (Field.LineInserted line) fields others) :
      LineInserted line decl { decl with shape := .struct others }

/-- A line is inserted into the documentation of a function. -/
def FunctionDeclaration.LineInserted (line : String) (function other : FunctionDeclaration) : Prop :=
  ∃ docs, function.docs.LineInserted line docs ∧ other = { function with docs := docs }

/-- A line is inserted into the documentation of a file, or of one of its declarations. -/
inductive FileDeclarations.LineInserted (line : String) :
    FileDeclarations → FileDeclarations → Prop where
  | docs {file : FileDeclarations} {docs : Documentation}
      (inserted : file.docs.LineInserted line docs) :
      LineInserted line file { file with docs := docs }
  | type {file : FileDeclarations} {types : List TypeDeclaration}
      (inserted : OneChanged (TypeDeclaration.LineInserted line) file.types types) :
      LineInserted line file { file with types := types }
  | function {file : FileDeclarations} {functions : List FunctionDeclaration}
      (inserted : OneChanged (FunctionDeclaration.LineInserted line) file.functions functions) :
      LineInserted line file { file with functions := functions }

/-- A line is inserted somewhere into the documentation of declarations. -/
def Declarations.LineInserted (line : String) (graph other : Declarations) : Prop :=
  OneChanged (FileDeclarations.LineInserted line) graph.files other.files

/-- A list with one changed item is related item by item, if the change is and each item is related to
    itself. -/
theorem OneChanged.forall₂ {α : Type} {change R : α → α → Prop} {items others : List α}
    (changed : OneChanged change items others) (related : ∀ a b, change a b → R a b)
    (refl : ∀ a, R a a) : List.Forall₂ R items others := by
  obtain ⟨before, item, other, after, here, rfl, rfl⟩ := changed
  have kept (items : List α) : List.Forall₂ R items items := List.forall₂_same.2 fun a _ => refl a
  exact List.rel_append (kept before) (.cons (related item other here) (kept after))

/-! ### Malformed directives

All four readers pass over a malformed line, and the free text leaves it out because of its shape. -/

/-- A line with the shape of a directive that no reader accepts. -/
structure Directive.Malformed (line : String) : Prop extends Directive.Unaccepted line where
  shape : Directive.isDirectiveLine line = true

/-- A reader that passes over a line reads the same without it. -/
theorem Documentation.LineInserted.filterMap_eq {line : String} {docs other : Documentation}
    (inserted : docs.LineInserted line other) {β : Type} {read : String → Option β}
    (passed : read line = none) : docs.lines.filterMap read = other.lines.filterMap read := by
  obtain ⟨before, after, lines, others⟩ := inserted
  rw [lines, others, List.filterMap_append, List.filterMap_append, List.filterMap_cons_none passed]

section ReadsAs

variable {line : String} (malformed : Directive.Malformed line)
include malformed

/-- The text goes without the line, and all readers pass over it. -/
theorem Documentation.LineInserted.readsAs {docs other : Documentation}
    (inserted : docs.LineInserted line other) : docs.ReadsAs other where
  text := by
    have prose : docs.prose = other.prose := by
      obtain ⟨before, after, lines, others⟩ := inserted
      simp [Documentation.prose, lines, others, malformed.shape]
    rw [text, text, textLines, textLines, prose]
  spec := inserted.filterMap_eq malformed.spec
  schema := inserted.filterMap_eq malformed.schema
  operations := inserted.filterMap_eq malformed.operation
  bindings := inserted.filterMap_eq malformed.binding

theorem Field.LineInserted.readsAs {field other : Field} (inserted : field.LineInserted line other) :
    field.ReadsAs other := by
  obtain ⟨docs, inserted, rfl⟩ := inserted
  exact ⟨docs, inserted.readsAs malformed, rfl⟩

/-- A type reads as before, whether the line is its own or that of a field. -/
theorem TypeDeclaration.LineInserted.readsAs {decl other : TypeDeclaration}
    (inserted : decl.LineInserted line other) : decl.ReadsAs other := by
  cases inserted with
  | docs inserted => exact ⟨rfl, inserted.readsAs malformed, .refl decl.shape⟩
  | field shape inserted =>
      refine ⟨rfl, .refl decl.docs, ?_⟩
      rw [shape]
      exact .struct (inserted.forall₂ (fun _ _ changed => changed.readsAs malformed) .refl)

theorem FunctionDeclaration.LineInserted.readsAs {function other : FunctionDeclaration}
    (inserted : function.LineInserted line other) : function.ReadsAs other := by
  obtain ⟨docs, inserted, rfl⟩ := inserted
  exact ⟨docs, inserted.readsAs malformed, rfl⟩

/-- A file reads as before, wherever in it the line stands. -/
theorem FileDeclarations.LineInserted.readsAs {file other : FileDeclarations}
    (inserted : file.LineInserted line other) : file.ReadsAs other := by
  cases inserted with
  | docs inserted =>
      exact { FileDeclarations.ReadsAs.refl file with docs := inserted.readsAs malformed }
  | type inserted =>
      exact { FileDeclarations.ReadsAs.refl file with
        types := inserted.forall₂ (fun _ _ changed => changed.readsAs malformed) .refl }
  | function inserted =>
      exact { FileDeclarations.ReadsAs.refl file with
        functions := inserted.forall₂ (fun _ _ changed => changed.readsAs malformed) .refl }

theorem Declarations.LineInserted.readsAs {graph other : Declarations}
    (inserted : graph.LineInserted line other) : graph.ReadsAs other :=
  inserted.forall₂ (fun _ _ changed => changed.readsAs malformed) .refl

end ReadsAs

/-! ### Warnings

An unknown method is the one offence that gives a warning, and only in the documentation of a function.
-/

/-- The same warnings, or one more, about the method that a line would bind a function to. -/
inductive GrownBy (line : String) : List Warning → List Warning → Prop where
  | same (warnings : List Warning) : GrownBy line warnings warnings
  | more {method path : String} (unsupported : Directive.parseBinding line = .unsupported method path)
      (before after : List Warning) :
      GrownBy line (before ++ after) (before ++ .unsupportedMethod method path :: after)

namespace GrownBy

variable {line : String} {warnings others : List Warning}

theorem append_left (grown : GrownBy line warnings others) (earlier : List Warning) :
    GrownBy line (earlier ++ warnings) (earlier ++ others) := by
  cases grown with
  | same => exact .same _
  | more unsupported before after =>
      rw [← List.append_assoc, ← List.append_assoc]
      exact .more unsupported _ after

theorem append_right (grown : GrownBy line warnings others) (later : List Warning) :
    GrownBy line (warnings ++ later) (others ++ later) := by
  cases grown with
  | same => exact .same _
  | more unsupported before after =>
      rw [List.append_assoc, List.append_assoc, List.cons_append]
      exact .more unsupported before _

/-- If one item of a list is changed, the warnings about all items grow by those about the item. -/
theorem flatMap {α : Type} {change : α → α → Prop} {items changed : List α}
    (one : OneChanged change items changed) (about : α → List Warning)
    (grown : ∀ a b, change a b → GrownBy line (about a) (about b)) :
    GrownBy line (items.flatMap about) (changed.flatMap about) := by
  obtain ⟨before, item, other, after, here, rfl, rfl⟩ := one
  rw [List.flatMap_append, List.flatMap_append, List.flatMap_cons, List.flatMap_cons]
  exact ((grown item other here).append_right _).append_left _

end GrownBy

section Warnings

variable {line : String} (malformed : Directive.Malformed line) (files : ExampleFiles)
include malformed

/-- A line may give a warning of its own about a function. The function has the same operation as
    before, and so the same warnings about that. -/
theorem bindWarnings_grown (source : Path) {function other : FunctionDeclaration}
    (inserted : function.LineInserted line other) :
    GrownBy line (bindWarnings files source function) (bindWarnings files source other) := by
  obtain ⟨docs, inserted, rfl⟩ := inserted
  have made : buildWarnings files source { function with docs := docs } =
      buildWarnings files source function := by
    rw [buildWarnings, buildWarnings, (inserted.readsAs malformed).operations]
  obtain ⟨before, after, lines, others⟩ := inserted
  rw [bindWarnings, bindWarnings, made]
  simp only [lines, others, List.flatMap_append, List.flatMap_cons]
  cases parsed : Directive.parseBinding line with
  | none => exact .same _
  | bound binding =>
      -- No reader accepts the line, so it binds nothing.
      have refused := malformed.binding
      rw [Directive.parseBinding?, parsed] at refused
      cases refused
  | unsupported method path => exact .more parsed _ _

/-- Of all functions in all files only one has the line. -/
theorem bindAllWarnings_grown {graph other : Declarations} (inserted : graph.LineInserted line other) :
    GrownBy line (bindAllWarnings files graph) (bindAllWarnings files other) := by
  apply GrownBy.flatMap inserted
  intro file file' changed
  cases changed with
  | docs => exact .same _
  | type => exact .same _
  | function inserted =>
      exact GrownBy.flatMap inserted _ fun _ _ changed =>
        bindWarnings_grown malformed files file.path changed

end Warnings

namespace Built

/-- A malformed directive, wherever it is inserted, leaves the document as it is. At most it gives a
    warning. -/
theorem malformed_directive_ignored {line : String} (malformed : Directive.Malformed line)
    {graph other : Declarations} (inserted : graph.LineInserted line other)
    (policy : RegistrationPolicy) (files : ExampleFiles) :
    let built := ofDeclarations policy files graph
    let again := ofDeclarations policy files other
    again.document = built.document ∧ GrownBy line built.warnings again.warnings := by
  intro built again
  have alike : graph.ReadsAs other := inserted.readsAs malformed
  refine ⟨(document_eq_of_readsAs alike policy files).symm, ?_⟩
  simp only [built, again, ofDeclarations, ← alike.generateAll_eq policy]
  exact (bindAllWarnings_grown malformed files inserted).append_left _

/-- A function that is bound, with a blank line in its documentation. -/
def listItems (lines : List String) : FunctionDeclaration where
  name := "list_items"
  docs := ⟨["Lists items.", ""] ++ lines ++ ["All of them.", "openapi:operation /items GET"]⟩

/-- A file with a component and the function. -/
def itemsFile (lines : List String) : FileDeclarations where
  path := ⟨"items.rs"⟩
  docs := ⟨["Package items Items", "openapi:info 1.0"]⟩
  types := [⟨"Item", ⟨["openapi:component schema Item"]⟩, .alias (.primitive .string)⟩]
  functions := [listItems lines]

/-- A binding to a method that documents do not know, between the paragraphs of the function's
    documentation. -/
theorem malformed_directive_ignored_trace :
    (Directive.Malformed "openapi:operation /items TRACE" ∧
      Declarations.LineInserted "openapi:operation /items TRACE" ⟨[itemsFile []]⟩
        ⟨[itemsFile ["openapi:operation /items TRACE"]]⟩) ∧
    let built := ofDeclarations .firstWins (fun _ => none) ⟨[itemsFile []]⟩
    let again := ofDeclarations .firstWins (fun _ => none)
      ⟨[itemsFile ["openapi:operation /items TRACE"]]⟩
    again.document = built.document ∧
      GrownBy "openapi:operation /items TRACE" built.warnings again.warnings := by
  have malformed : Directive.Malformed "openapi:operation /items TRACE" :=
    { spec := by decide +kernel
      schema := by decide +kernel
      operation := by decide +kernel
      binding := by decide +kernel
      shape := by decide +kernel }
  have function : (listItems []).LineInserted "openapi:operation /items TRACE"
      (listItems ["openapi:operation /items TRACE"]) :=
    ⟨_, ⟨["Lists items.", ""], ["All of them.", "openapi:operation /items GET"], rfl, rfl⟩, rfl⟩
  have file : (itemsFile []).LineInserted "openapi:operation /items TRACE"
      (itemsFile ["openapi:operation /items TRACE"]) :=
    .function ⟨[], _, _, [], function, rfl, rfl⟩
  have inserted : Declarations.LineInserted "openapi:operation /items TRACE" ⟨[itemsFile []]⟩
      ⟨[itemsFile ["openapi:operation /items TRACE"]]⟩ :=
    ⟨[], _, _, [], file, rfl, rfl⟩
  exact ⟨⟨malformed, inserted⟩, malformed_directive_ignored malformed inserted .firstWins fun _ => none⟩

end Built

end SwaggerDocs
