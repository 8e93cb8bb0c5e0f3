/-
Module: SwaggerDocs.Proofs.Files.Path
Purpose: The order of paths, and the paths below a path. Components are ordered by their kind and names by
  their characters; paths are ordered as the lists of their components are. A file name that is joined to
  a path is one more component at its end.
Main exports: Path.Component.lt_iff, Path.before_iff, IsFileName, Path.components_join, Path.below,
  Path.components_below
-/
import Mathlib.Data.Prod.Lex
import Mathlib.Data.String.Basic
import Mathlib.Order.Lex
import SwaggerDocs.Files.Path
import SwaggerDocs.Proofs.Text.Lines

namespace SwaggerDocs

namespace Path

/-! ### The order of paths

Paths are sorted by their components and not by their texts. The comparison of lists of components is
that of a linear order, so sorting has the properties of one. -/

namespace Component

/-- The kind of a component, and its name if it has one. -/
def key : Component → Nat ×ₗ String
  | .normal name => toLex (rank (.normal name), name)
  | other => toLex (other.rank, "")

theorem key_injective : Function.Injective key := by
  intro a b same
  cases a <;> cases b <;> simp_all [key, rank]

/-- Components are ordered by their kind, and names by their characters. -/
instance : LinearOrder Component := LinearOrder.lift' key key_injective

/-- Components are compared as their keys are. -/
theorem lt_iff {a b : Component} : a.lt b = true ↔ a < b := by
  have order : a < b ↔ a.key < b.key := Iff.rfl
  rw [order]
  cases a <;> cases b <;> simp [lt, key, rank, Prod.Lex.toLex_lt_toLex]

end Component

/-- Lists of components are compared item by item, and a list comes after its own beginnings. -/
theorem componentsLt_iff {as bs : List Component} : componentsLt as bs = true ↔ as < bs := by
  induction as generalizing bs with
  | nil => cases bs <;> simp [componentsLt]
  | cons a as ih =>
      cases bs with
      | nil => simp [componentsLt]
      | cons b bs =>
          rw [componentsLt, List.cons_lt_cons_iff, ← ih]
          rcases lt_trichotomy a b with first | rfl | second
          · simp [Component.lt_iff.2 first, first]
          · have never : Component.lt a a = false :=
              Bool.eq_false_iff.2 fun first => lt_irrefl a (Component.lt_iff.1 first)
            simp [never]
          · have never : Component.lt a b = false :=
              Bool.eq_false_iff.2 fun first => lt_asymm second (Component.lt_iff.1 first)
            simp [never, Component.lt_iff.2 second, second.ne', second.not_gt]

/-- Paths are ordered as the lists of their components. -/
theorem before_iff {a b : Path} : a.before b = true ↔ a.components < b.components :=
  componentsLt_iff

/-! ### Paths below a path

The search joins a file name to a path for each directory that it enters. The text of the base may end
in a slash or not; either way the name is one more component at the end. -/

/-- The components of pieces, of which the first one may be the beginning of an absolute path. -/
def assemble (absolute : Bool) : List String → List Component
  | [] => []
  | first :: rest =>
      if absolute then .root :: componentsOf rest
      else if first = "." then .current :: componentsOf rest
      else componentsOf (first :: rest)

/-- The components of a path are told by its pieces and by whether it is absolute. -/
theorem components_eq (path : Path) : path.components = assemble path.isAbsolute path.pieces := by
  rw [components]
  cases path.pieces <;> rfl

/-- Each piece gives its components on its own. -/
theorem componentsOf_append (pieces others : List String) :
    componentsOf (pieces ++ others) = componentsOf pieces ++ componentsOf others := by
  rw [componentsOf, List.filter_append, List.map_append]
  rfl

/-- A piece at the end gives its component at the end. -/
theorem assemble_append (absolute : Bool) {pieces : List String} (some : pieces ≠ [])
    (others : List String) :
    assemble absolute (pieces ++ others) = assemble absolute pieces ++ componentsOf others := by
  obtain ⟨first, rest, rfl⟩ := List.exists_cons_of_ne_nil some
  rw [List.cons_append, assemble, assemble, ← List.cons_append, componentsOf_append,
    componentsOf_append]
  split
  · rfl
  · split
    · rfl
    · rfl

end Path

/-- Names that a directory can list. -/
structure IsFileName (name : String) : Prop where
  nonempty : name ≠ ""
  notCurrent : name ≠ "."
  notParent : name ≠ ".."
  whole : '/' ∉ name.toList

instance (name : String) : Decidable (IsFileName name) :=
  decidable_of_iff (name ≠ "" ∧ name ≠ "." ∧ name ≠ ".." ∧ '/' ∉ name.toList)
    ⟨fun ⟨nonempty, notCurrent, notParent, whole⟩ => ⟨nonempty, notCurrent, notParent, whole⟩,
      fun fileName =>
        ⟨fileName.nonempty, fileName.notCurrent, fileName.notParent, fileName.whole⟩⟩

namespace Path

/-- A file name is one component. -/
theorem componentsOf_fileName {name : String} (fileName : IsFileName name) :
    componentsOf [name] = [.normal name] := by
  have kept : decide (name ≠ "" ∧ name ≠ ".") = true :=
    decide_eq_true ⟨fileName.nonempty, fileName.notCurrent⟩
  rw [componentsOf, List.filter_singleton, kept, cond_true, List.map_singleton, Component.ofPiece,
    if_neg fileName.notParent]

/-- Even the empty path has a piece, which is empty. -/
theorem pieces_ne_nil (path : Path) : path.pieces ≠ [] := by
  rw [pieces, Ne, List.map_eq_nil_iff]
  exact Text.splitOn_ne_nil '/' path.text.toList

/-- A file name has no slash, so it is one piece. -/
theorem pieces_fileName {name : String} (fileName : IsFileName name) : pieces ⟨name⟩ = [name] := by
  rw [pieces, Text.splitOn_of_notMem fileName.whole, List.map_singleton, String.ofList_toList]

/-- A slash separates the pieces before it from those after it. -/
theorem pieces_slash (text more : String) :
    pieces ⟨text ++ "/" ++ more⟩ = pieces ⟨text⟩ ++ pieces ⟨more⟩ := by
  have parts : (text ++ "/" ++ more).toList = text.toList ++ '/' :: more.toList := by
    simp
  rw [pieces, parts, Text.splitOn_append, List.map_append]
  rfl

/-- Whether a path is absolute is told by its first character. -/
theorem isAbsolute_append {text : String} (written : text ≠ "") (more : String) :
    isAbsolute ⟨text ++ more⟩ = isAbsolute ⟨text⟩ := by
  have some : text.toList ≠ [] := mt String.toList_eq_nil_iff.1 written
  rw [isAbsolute, isAbsolute, String.toList_append, List.head?_append_of_ne_nil _ some]

/-- A file name that is joined to a path is one more piece; the empty piece after a slash at the end
    gives way to it. -/
theorem pieces_join (base : Path) (written : base.text ≠ "") {name : String}
    (fileName : IsFileName name) :
    ∃ front, front ≠ [] ∧ (base.join name).pieces = front ++ [name] ∧
      (base.pieces = front ∨ base.pieces = front ++ [""]) := by
  obtain ⟨text⟩ := base
  have relative : name.toList.head? ≠ some '/' := fun starts =>
    fileName.whole (List.mem_of_head? starts)
  rw [join, if_neg relative]
  by_cases ends : text.toList.getLast? = some '/'
  · -- the slash at the end separates the name from what stands before it
    obtain ⟨front, slash⟩ := List.getLast?_eq_some_iff.1 ends
    have parts : text = String.ofList front ++ "/" := by
      apply String.toList_injective
      simp [slash]
    have before : pieces ⟨text⟩ = pieces ⟨String.ofList front⟩ ++ [""] := by
      have last : pieces ⟨""⟩ = [""] := rfl
      rw [parts, ← String.append_empty (s := _ ++ "/"), pieces_slash, last]
    have after : pieces ⟨text ++ name⟩ = pieces ⟨String.ofList front⟩ ++ [name] := by
      rw [parts, pieces_slash, pieces_fileName fileName]
    rw [if_pos (Or.inr ends)]
    exact ⟨_, pieces_ne_nil _, after, Or.inr before⟩
  · rw [if_neg (by simp [show text ≠ "" from written, ends])]
    refine ⟨pieces ⟨text⟩, pieces_ne_nil _, ?_, Or.inl rfl⟩
    rw [pieces_slash, pieces_fileName fileName]

/-- A file name joined to a path leaves it absolute or relative. -/
theorem isAbsolute_join (base : Path) (written : base.text ≠ "") {name : String}
    (fileName : IsFileName name) : (base.join name).isAbsolute = base.isAbsolute := by
  obtain ⟨text⟩ := base
  have relative : name.toList.head? ≠ some '/' := fun starts =>
    fileName.whole (List.mem_of_head? starts)
  rw [join, if_neg relative]
  split
  · exact isAbsolute_append written name
  · rw [String.append_assoc, isAbsolute_append written]

/-- A path to which a file name was joined is not empty. -/
theorem text_join_ne_empty (base : Path) {name : String} (fileName : IsFileName name) :
    (base.join name).text ≠ "" := by
  have nonempty := fileName.nonempty
  rw [join]
  split
  · exact nonempty
  · split <;> simp [nonempty]

/-- A file name that is joined to a path is one more component. -/
theorem components_join (base : Path) {name : String} (fileName : IsFileName name) :
    (base.join name).components = base.components ++ [.normal name] := by
  by_cases written : base.text = ""
  · -- the empty path has no components, and is no part of the text
    obtain ⟨text⟩ := base
    obtain rfl : text = "" := written
    have relative : name.toList.head? ≠ some '/' := fun starts =>
      fileName.whole (List.mem_of_head? starts)
    have none : components ⟨""⟩ = [] := rfl
    have fromHere : isAbsolute ⟨name⟩ = false := decide_eq_false relative
    have blank : ("" : String).isEmpty = true := rfl
    rw [join, if_neg relative, if_pos (Or.inl blank), String.empty_append, none, List.nil_append,
      components_eq, pieces_fileName fileName, fromHere, assemble, if_neg Bool.false_ne_true,
      if_neg fileName.notCurrent, componentsOf_fileName fileName]
  · obtain ⟨front, some, joined, own⟩ := pieces_join base written fileName
    have skipped : componentsOf [""] = [] := rfl
    rw [components_eq, components_eq, joined, isAbsolute_join base written fileName,
      assemble_append _ some, componentsOf_fileName fileName]
    rcases own with same | slash
    · rw [same]
    · rw [slash, assemble_append _ some, skipped, List.append_nil]

/-- The path of names below a path. -/
def below (root : Path) (names : List String) : Path := names.foldl join root

/-- The names are the components after those of the root. -/
theorem components_below (root : Path) {names : List String}
    (fileNames : ∀ name ∈ names, IsFileName name) :
    (root.below names).components = root.components ++ names.map .normal := by
  induction names generalizing root with
  | nil => exact (List.append_nil _).symm
  | cons name names ih =>
      obtain ⟨first, later⟩ := List.forall_mem_cons.1 fileNames
      rw [below, List.foldl_cons, ← below, ih (root.join name) later, components_join root first,
        List.append_assoc]
      rfl

/-! ### Extensions

The extension of a file is what follows the last dot of its name, if something stands before it. -/

/-- What follows the last dot of a name is its extension, unless nothing stands before the dot. -/
theorem extension?_dot {stem last : String} (single : '.' ∉ last.toList) :
    extension? (stem ++ "." ++ last) =
      if stem = "" ∨ stem ++ "." ++ last = ".." then none else some last := by
  have parts : (stem ++ "." ++ last).toList = stem.toList ++ '.' :: last.toList := by simp
  rw [extension?, parts, Text.splitOn_append, Text.splitOn_of_notMem single, List.reverse_concat]
  by_cases hidden : stem = ""
  · rw [if_pos (Or.inl hidden), hidden]
    rfl
  · have some : (Text.splitOn '.' stem.toList).reverse ≠ [[]] := by
      rw [Ne, ← List.reverse_inj, List.reverse_reverse, List.reverse_singleton,
        Text.splitOn_eq_empty_iff, String.toList_eq_nil_iff]
      exact hidden
    simp only [hidden, false_or]
    obtain ⟨piece, pieces, reversed⟩ := List.exists_cons_of_ne_nil
      (mt List.reverse_eq_nil_iff.1 (Text.splitOn_ne_nil '.' stem.toList))
    rw [reversed] at some ⊢
    split
    · rename_i same
      exact absurd (List.cons.inj same).2 some
    · rename_i same
      obtain ⟨rfl, _⟩ := List.cons.inj same
      rw [String.ofList_toList]
    · rename_i never
      exact absurd rfl (never _ _ _)

/-- Names with the extension are those that end in it, after something else. -/
theorem extension?_eq_some_iff {name extension : String} (written : extension ≠ "")
    (single : '.' ∉ extension.toList) :
    extension? name = some extension ↔ ∃ stem, stem ≠ "" ∧ name = stem ++ "." ++ extension := by
  constructor
  · intro found
    by_cases dotted : '.' ∈ name.toList
    · -- the last dot is the first one of the reversed name
      obtain ⟨last, stem, parts, first⟩ :=
        List.eq_append_cons_of_mem (List.mem_reverse.2 dotted)
      have whole : name = String.ofList stem.reverse ++ "." ++ String.ofList last.reverse := by
        apply String.toList_injective
        have reversed := congrArg List.reverse parts
        simpa using reversed
      have plain : '.' ∉ (String.ofList last.reverse).toList := by simpa using first
      rw [whole, extension?_dot plain] at found
      split at found
      · cases found
      · rename_i proper
        obtain rfl := Option.some.inj found
        exact ⟨_, fun hidden => proper (Or.inl hidden), whole⟩
    · rw [extension?, Text.splitOn_of_notMem dotted] at found
      cases found
  · rintro ⟨stem, proper, rfl⟩
    rw [extension?_dot single, if_neg]
    rintro (hidden | parent)
    · exact proper hidden
    · have lengths := congrArg (fun text => text.toList.length) parent
      have before := List.length_pos_iff.2 (mt String.toList_eq_nil_iff.1 proper)
      have after := List.length_pos_iff.2 (mt String.toList_eq_nil_iff.1 written)
      simp at lengths before after
      omega

end Path

end SwaggerDocs
