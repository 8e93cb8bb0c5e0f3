/-
Module: SwaggerDocs.Proofs.Source.DocLines
Purpose: The documentation lines of attributes, text by text. A text adds lines of its own to those that
  were gathered before, with one exception: a longer text without any line of text adds nothing and takes
  away the empty lines before it, also those of earlier attributes. So the lines of attributes are those
  of a first part and those of the rest, unless the rest begins with such a text.
Main exports: ownLines, isHollow, addText_eq, Reaches, foldl_addText, docLines_append,
  docLines_split, docLines_hollow
-/
import SwaggerDocs.Proofs.Text.Lines
import SwaggerDocs.Source.Attribute

namespace SwaggerDocs.Source

/-! ### One text

A short text adds its one line, even an empty one. A longer text adds its lines without the empty ones
at the end, and drops these from all that was gathered, which matters only if it has no line of its own.
-/

/-- The lines that a text gives by itself. -/
def ownLines (text : List Char) : List (List Char) :=
  if text.contains '\n' then dropEmptyEnd (blockLines text) else [singleLine text]

/-- A longer text all of whose lines are empty. -/
def isHollow (text : List Char) : Bool := text.contains '\n' && (blockLines text).all List.isEmpty

/-- A text whose own lines are all empty. -/
def isVoid (text : List Char) : Bool := (ownLines text).all List.isEmpty

/-- Empty lines are dropped from the second of two lists, and from the first only if nothing of the
    second is left. -/
theorem dropEmptyEnd_append (first second : List (List Char)) :
    dropEmptyEnd (first ++ second) =
      if second.all List.isEmpty = true then dropEmptyEnd first else first ++ dropEmptyEnd second :=
  Text.rdropWhile_append List.isEmpty first second

theorem dropEmptyEnd_eq_nil {lines : List (List Char)} (empty : lines.all List.isEmpty = true) :
    dropEmptyEnd lines = [] :=
  List.rdropWhile_eq_nil_iff.2 (List.all_eq_true.1 empty)

/-- A text adds its own lines, but a hollow one takes away the empty lines before it. -/
theorem addText_eq (gathered : List (List Char)) (text : List Char) :
    addText gathered text =
      if isHollow text = true then dropEmptyEnd gathered else gathered ++ ownLines text := by
  rw [addText, isHollow, ownLines]
  by_cases long : text.contains '\n' = true
  · rw [if_pos long, if_pos long, long, Bool.true_and]
    exact dropEmptyEnd_append gathered (blockLines text)
  · rw [if_neg long, if_neg long, if_neg fun both => long (Bool.and_eq_true_iff.1 both).1]

/-! ### Texts in turn

What the texts after the first ones take away is decided by a hollow text that only void ones stand
before. The induction is on the texts, for any lines that were gathered before. -/

/-- Among texts is a hollow one, and all texts before it are void. What such texts take away stands
    before them. -/
def Reaches (texts : List (List Char)) : Prop :=
  ∃ before hollow after, texts = before ++ hollow :: after ∧ isHollow hollow = true ∧
    ∀ text ∈ before, isVoid text = true

theorem not_reaches_nil : ¬Reaches [] := by
  rintro ⟨before, hollow, after, parts, _⟩
  exact List.append_ne_nil_of_right_ne_nil before (List.cons_ne_nil hollow after) parts.symm

/-- Texts reach what stands before them if the first one is hollow, or it is void and the others do. -/
theorem reaches_cons {text : List Char} {rest : List (List Char)} :
    Reaches (text :: rest) ↔ isHollow text = true ∨ isVoid text = true ∧ Reaches rest := by
  constructor
  · rintro ⟨before, hollow, after, parts, isHollow, voids⟩
    cases before with
    | nil =>
        obtain ⟨rfl, rfl⟩ := List.cons.inj parts
        exact Or.inl isHollow
    | cons first before =>
        obtain ⟨rfl, rfl⟩ := List.cons.inj parts
        obtain ⟨void, voids⟩ := List.forall_mem_cons.1 voids
        exact Or.inr ⟨void, before, hollow, after, rfl, isHollow, voids⟩
  · rintro (isHollow | ⟨void, before, hollow, after, rfl, isHollow, voids⟩)
    · exact ⟨[], text, rest, rfl, isHollow, fun _ absent => by cases absent⟩
    · exact ⟨text :: before, hollow, after, rfl, isHollow, List.forall_mem_cons.2 ⟨void, voids⟩⟩

instance decidableReaches : (texts : List (List Char)) → Decidable (Reaches texts)
  | [] => isFalse not_reaches_nil
  | text :: rest =>
      have := decidableReaches rest
      decidable_of_iff (isHollow text = true ∨ isVoid text = true ∧ Reaches rest) reaches_cons.symm

/-- Texts add to the lines that were gathered what they give by themselves. Only the empty lines at the
    end of these are touched, and only if the texts reach them. -/
theorem foldl_addText (gathered : List (List Char)) (texts : List (List Char)) :
    texts.foldl addText gathered =
      (if Reaches texts then dropEmptyEnd gathered else gathered) ++ texts.foldl addText [] := by
  induction texts generalizing gathered with
  | nil => rw [if_neg not_reaches_nil, List.foldl_nil, List.foldl_nil, List.append_nil]
  | cons text rest ih =>
      rw [List.foldl_cons, List.foldl_cons, ih, ih (addText [] text), addText_eq, addText_eq,
        ← List.append_assoc]
      congr 1
      by_cases hollow : isHollow text = true
      · -- the lines before are touched by this text already, and a second time changes nothing
        rw [if_pos hollow, if_pos hollow, if_pos (reaches_cons.2 (Or.inl hollow))]
        have again : dropEmptyEnd (dropEmptyEnd gathered) = dropEmptyEnd gathered :=
          List.rdropWhile_idempotent _ gathered
        have none : dropEmptyEnd [] = [] := rfl
        simp only [again, none, ite_self, List.append_nil]
      · rw [if_neg hollow, if_neg hollow, List.nil_append]
        have through : Reaches (text :: rest) ↔ isVoid text = true ∧ Reaches rest := by
          rw [reaches_cons, or_iff_right hollow]
        by_cases later : Reaches rest
        · rw [if_pos later, if_pos later, dropEmptyEnd_append, ← isVoid]
          by_cases void : isVoid text = true
          · rw [if_pos (through.2 ⟨void, later⟩), if_pos void, dropEmptyEnd_eq_nil void,
              List.append_nil]
          · rw [if_neg fun reached => void (through.1 reached).1, if_neg void]
        · rw [if_neg later, if_neg later, if_neg fun reached => later (through.1 reached).2]

/-! ### Attributes

The same for attributes, whose documentation texts are these texts. -/

/-- The documentation texts of attributes. -/
def textsOf (attributes : List Attribute) : List (List Char) :=
  (attributes.filterMap (·.documentation?)).map String.toList

/-- The lines of attributes are gathered from their documentation texts. -/
theorem docLines_eq (attributes : List Attribute) :
    docLines attributes = ((textsOf attributes).foldl addText []).map String.ofList := by
  rw [docLines, textsOf, List.foldl_map]

/-- The texts of two lists of attributes in turn. -/
theorem textsOf_append (attributes others : List Attribute) :
    textsOf (attributes ++ others) = textsOf attributes ++ textsOf others := by
  rw [textsOf, List.filterMap_append, List.map_append]
  rfl

/-- The empty lines at the end are dropped, as texts or as lists of characters. -/
theorem map_dropEmptyEnd (lines : List (List Char)) :
    (dropEmptyEnd lines).map String.ofList = (lines.map String.ofList).rdropWhile String.isEmpty := by
  have same : String.isEmpty ∘ String.ofList = List.isEmpty := by
    funext line
    rw [Function.comp_apply, Bool.eq_iff_iff, String.isEmpty_iff, List.isEmpty_iff,
      String.ofList_eq_empty_iff]
  rw [List.rdropWhile, dropEmptyEnd, ← List.map_reverse, List.dropWhile_map, same, ← List.map_reverse]

/-- The lines of attributes in two parts. -/
theorem docLines_append (attributes others : List Attribute) :
    docLines (attributes ++ others) =
      (if Reaches (textsOf others) then (docLines attributes).rdropWhile String.isEmpty
        else docLines attributes) ++ docLines others := by
  rw [docLines_eq, textsOf_append, List.foldl_append, foldl_addText, List.map_append, docLines_eq,
    docLines_eq]
  split
  · rw [map_dropEmptyEnd]
  · rfl

/-- The lines of attributes are those of a first part and those of the rest, but for the empty lines at
    the end of the first part if the rest reaches them; so they fall apart unless there are such
    lines. -/
theorem docLines_split (attributes others : List Attribute) :
    docLines (attributes ++ others) =
        (if Reaches (textsOf others) then (docLines attributes).rdropWhile String.isEmpty
          else docLines attributes) ++ docLines others ∧
      (docLines (attributes ++ others) = docLines attributes ++ docLines others ↔
        ¬(Reaches (textsOf others) ∧ (docLines attributes).getLast? = some "")) := by
  refine ⟨docLines_append attributes others, ?_⟩
  rw [docLines_append, List.append_cancel_right_eq]
  by_cases reached : Reaches (textsOf others)
  · rw [if_pos reached]
    rcases List.eq_nil_or_concat (docLines attributes) with none | ⟨before, last, parts⟩
    · rw [none]
      exact iff_of_true rfl fun both => by cases both.2
    · rw [parts, List.concat_eq_append, List.getLast?_concat, Option.some_inj, and_iff_right reached,
        List.rdropWhile_eq_self_iff]
      simp only [List.getLast_concat, String.isEmpty_iff]
      exact imp_iff_right (List.concat_ne_nil last before)
  · rw [if_neg reached]
    exact iff_of_true rfl fun both => reached both.1

/-- The attribute of a documentation text. -/
def documentationAttribute (text : String) : Attribute := ⟨some "doc", .text text⟩

/-- A line of text and an empty line, each in a comment of its own. -/
def opening : List Attribute := [documentationAttribute " First.", documentationAttribute ""]

/-- A longer comment without text, and then a line of text. -/
def continued : List Attribute := [documentationAttribute "\n ", documentationAttribute " Second."]

/-- The longer comment takes away the empty line of the comment before it, and so the break between two
    paragraphs. -/
theorem docLines_hollow :
    docLines (opening ++ continued) ≠ docLines opening ++ docLines continued ∧
      (documentation (opening ++ continued)).text = "First.\nSecond." ∧
      Documentation.text ⟨docLines opening ++ docLines continued⟩ = "First.\n\nSecond." := by
  exact ⟨by decide, rfl, rfl⟩

end SwaggerDocs.Source
