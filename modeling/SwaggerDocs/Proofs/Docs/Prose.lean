/-
Module: SwaggerDocs.Proofs.Docs.Prose
Purpose: The free text of a documentation block is a normal form of its prose: lines trimmed on the
  right, no blank lines at either end, and one empty line for each run of blank lines between. The text
  is made in one pass with a flag for a run that is still open; the normal form is put together from
  list operations that know no flag. A text that has the normal form is its own text, so making the text
  again changes nothing.
Main exports: squeeze, LaidOut, ProseLines, Documentation.normalLines, Documentation.SingleLines,
  textLines_eq_normalLines, SingleLines.lines_text, text_padded, Documentation.HasText,
  hasText_text
-/
import Mathlib.Data.List.Destutter
import SwaggerDocs.Docs.Documentation
import SwaggerDocs.Proofs.Text.Lines

namespace SwaggerDocs

open Text

/-! ### Runs of empty lines

The normal form is made without a flag, by leaving out each empty line right after another one. The
lemmas follow the cases in which a run of empty lines can be. -/

/-- An empty line right after an empty line is left out, so each run of empty lines becomes one. -/
def squeeze (lines : List (List Char)) : List (List Char) :=
  lines.destutter fun line next => line ≠ [] ∨ next ≠ []

/-- Lines with neither an empty line at either end nor two empty lines in a row. -/
structure LaidOut (lines : List (List Char)) : Prop where
  starts : lines.head? ≠ some []
  ends : lines.getLast? ≠ some []
  apart : lines.IsChain fun line next => line ≠ [] ∨ next ≠ []

section Squeeze

variable {line : List Char} {rest : List (List Char)}

/-- A line of text is kept, and the lines after it are squeezed on their own. -/
theorem squeeze_cons_of_ne_nil (text : line ≠ []) : squeeze (line :: rest) = line :: squeeze rest := by
  cases rest with
  | nil => rfl
  | cons next rest =>
      rw [squeeze, List.destutter_cons_cons, if_pos (Or.inl text)]
      rfl

/-- A single empty line before text is kept. -/
theorem squeeze_empty_cons_of_ne_nil (text : line ≠ []) :
    squeeze ([] :: line :: rest) = [] :: squeeze (line :: rest) := by
  rw [squeeze, List.destutter_cons_cons, if_pos (Or.inr text)]
  rfl

/-- Of two empty lines in a row one is left out. -/
theorem squeeze_empty_empty : squeeze ([] :: [] :: rest) = squeeze ([] :: rest) := by
  rw [squeeze, List.destutter_cons_cons, if_neg (by simp)]
  rfl

/-- Induction on lines, run by run: after an empty line comes the end, another one, or text. -/
theorem runs_induction {motive : List (List Char) → Prop} (nil : motive []) (last : motive [[]])
    (text : ∀ line rest, line ≠ [] → motive rest → motive (line :: rest))
    (again : ∀ rest, motive ([] :: rest) → motive ([] :: [] :: rest))
    (gap : ∀ line rest, line ≠ [] → motive (line :: rest) → motive ([] :: line :: rest))
    (lines : List (List Char)) : motive lines := by
  induction lines with
  | nil => exact nil
  | cons line rest ih =>
      cases line with
      | cons c line => exact text _ rest (List.cons_ne_nil c line) ih
      | nil =>
          match rest with
          | [] => exact last
          | [] :: rest => exact again rest ih
          | (c :: line) :: rest => exact gap _ rest (List.cons_ne_nil c line) ih

theorem head?_squeeze (lines : List (List Char)) : (squeeze lines).head? = lines.head? := by
  induction lines using runs_induction with
  | nil => rfl
  | last => rfl
  | text line rest solid _ =>
      rw [squeeze_cons_of_ne_nil solid]
      rfl
  | again rest ih =>
      rw [squeeze_empty_empty, ih]
      rfl
  | gap line rest solid _ =>
      rw [squeeze_empty_cons_of_ne_nil solid]
      rfl

/-- A line of text at the end is kept. -/
theorem squeeze_concat (lines : List (List Char)) {final : List Char} (ends : final ≠ []) :
    squeeze (lines ++ [final]) = squeeze lines ++ [final] := by
  induction lines using runs_induction with
  | nil => rfl
  | last => exact squeeze_empty_cons_of_ne_nil ends
  | text line rest solid ih =>
      rw [List.cons_append, squeeze_cons_of_ne_nil solid, squeeze_cons_of_ne_nil solid, ih]
      rfl
  | again rest ih =>
      rw [List.cons_append, List.cons_append, squeeze_empty_empty, squeeze_empty_empty]
      exact ih
  | gap line rest solid ih =>
      rw [List.cons_append, List.cons_append, squeeze_empty_cons_of_ne_nil solid,
        squeeze_empty_cons_of_ne_nil solid, ← List.cons_append, ih]
      rfl

/-- Only empty lines are left out. -/
theorem filter_squeeze (lines : List (List Char)) :
    (squeeze lines).filter (!·.isEmpty) = lines.filter (!·.isEmpty) := by
  induction lines using runs_induction with
  | nil => rfl
  | last => rfl
  | text line rest solid ih =>
      rw [squeeze_cons_of_ne_nil solid, List.filter_cons, List.filter_cons, ih]
  | again rest ih =>
      rw [squeeze_empty_empty, ih]
      rfl
  | gap line rest solid ih =>
      rw [squeeze_empty_cons_of_ne_nil solid]
      exact ih

end Squeeze

/-! ### Lines of prose

The properties that the lines of a text have, put together because they are kept together: by the lines
from any text on, and when the blanks before the first line go. -/

/-- Lines that are laid out and trimmed on the right, without line feeds. -/
structure ProseLines (lines : List (List Char)) : Prop extends LaidOut lines where
  single : ∀ line ∈ lines, '\n' ∉ line
  trimmed : ∀ line ∈ lines, trimEnd line = line

namespace ProseLines

variable {first : List Char} {rest lines : List (List Char)}

/-- Lines of prose come back from the text that they are joined to. -/
theorem lines_intercalate (prose : ProseLines lines) :
    Text.lines (['\n'].intercalate lines) = lines :=
  Text.lines_intercalate prose.single prose.trimmed prose.ends

theorem isBlankLine_first (prose : ProseLines (first :: rest)) : isBlankLine first = false := by
  rw [isBlankLine_of_trimmed (prose.trimmed first List.mem_cons_self), Bool.eq_false_iff]
  intro empty
  exact prose.starts (congrArg some (List.isEmpty_iff.1 empty))

theorem first_ne_nil (prose : ProseLines (first :: rest)) : first ≠ [] := by
  rintro rfl
  exact prose.starts rfl

/-- The first line of prose ends in a character that is not blank. -/
theorem endsSolid_first (prose : ProseLines (first :: rest)) : EndsSolid first :=
  endsSolid_of_trimmed (prose.trimmed first List.mem_cons_self) prose.first_ne_nil

/-- A text of lines of prose ends in a character that is not blank. -/
theorem endsSolid_intercalate (prose : ProseLines (first :: rest)) :
    EndsSolid (['\n'].intercalate (first :: rest)) := by
  have last := List.getLast?_eq_some_getLast (List.cons_ne_nil first rest)
  apply Text.endsSolid_intercalate last
  apply endsSolid_of_trimmed (prose.trimmed _ (List.getLast_mem _))
  exact fun empty => prose.ends (last.trans (congrArg some empty))

/-- Lines of prose stay so if the blanks before the first one are taken away. -/
theorem trimStart (prose : ProseLines (first :: rest)) :
    ProseLines (Text.trimStart first :: rest) := by
  have trimmed : trimEnd (Text.trimStart first) = Text.trimStart first := by
    rw [← trim, ← trimStart_trimEnd, prose.trimmed first List.mem_cons_self]
  have text : Text.trimStart first ≠ [] := by
    rw [← trimmed, ← trim]
    exact prose.endsSolid_first.trim_ne_nil
  refine ⟨⟨fun empty => text (Option.some.inj empty), ?_, ?_⟩, ?_, ?_⟩
  · have ends := prose.ends
    cases rest with
    | nil => exact fun empty => text (Option.some.inj empty)
    | cons next rest => rwa [List.getLast?_cons_cons] at ends ⊢
  · exact List.isChain_cons.2 ⟨fun _ _ => Or.inl text, prose.apart.tail⟩
  · rw [List.forall_mem_cons]
    refine ⟨fun broken => ?_, fun line later => prose.single line (List.mem_cons_of_mem _ later)⟩
    exact prose.single first List.mem_cons_self ((List.dropWhile_suffix _).subset broken)
  · rw [List.forall_mem_cons]
    exact ⟨trimmed, fun line later => prose.trimmed line (List.mem_cons_of_mem _ later)⟩

/-- From any line of text on, lines of prose stay so. -/
theorem of_append (before : List (List Char)) (prose : ProseLines (before ++ first :: rest))
    (text : first ≠ []) : ProseLines (first :: rest) where
  starts empty := text (Option.some.inj empty)
  ends := by
    have ends := prose.ends
    rwa [List.getLast?_append_cons] at ends
  apart := prose.apart.right_of_append
  single line member := prose.single line (List.mem_append_right _ member)
  trimmed line member := prose.trimmed line (List.mem_append_right _ member)

/-- The other lines start with text, after an empty line at most. -/
theorem exists_text (prose : ProseLines (first :: rest)) (more : rest ≠ []) :
    ∃ next others, ProseLines (next :: others) ∧
      (rest = next :: others ∨ rest = [] :: next :: others) := by
  match rest with
  | [] => exact absurd rfl more
  | (c :: line) :: others =>
      have text := List.cons_ne_nil c line
      exact ⟨c :: line, others, of_append [first] prose text, Or.inl rfl⟩
  | [[]] => exact absurd rfl prose.ends
  | [] :: [] :: others =>
      have apart := (List.isChain_cons_cons.1 (List.isChain_cons_cons.1 prose.apart).2).1
      exact absurd apart (by simp)
  | [] :: (c :: line) :: others =>
      have text := List.cons_ne_nil c line
      exact ⟨c :: line, others, of_append [first, []] prose text, Or.inr rfl⟩

end ProseLines

/-! ### One pass over the lines

The pass carries a flag for an open run. The invariant tells for both values of the flag what the pass
leaves; the normal form is then the case of a closed run. -/

namespace Documentation

/-- The lines that are left after the empty lines at either end are taken away and each run of empty
    lines becomes one. -/
def layOut (lines : List (List Char)) : List (List Char) :=
  squeeze ((lines.dropWhile List.isEmpty).rdropWhile List.isEmpty)

/-- The pass leaves the same lines, whether or not a run of empty lines is open: an open run stands for
    one more empty line before the rest. -/
theorem collapse_open (lines : List (List Char)) :
    collapse.collapseAfter lines = squeeze (lines.rdropWhile List.isEmpty) ∧
      collapse true lines = squeeze (([] :: lines).rdropWhile List.isEmpty) := by
  induction lines with
  | nil => exact ⟨rfl, rfl⟩
  | cons line rest ih =>
      obtain ⟨after, opened⟩ := ih
      cases line with
      | nil =>
          -- An empty line opens a run or leaves it open; whether it stays depends on what follows.
          refine ⟨opened, opened.trans ?_⟩
          by_cases gone : rest.rdropWhile List.isEmpty = []
          · simp [rdropWhile_cons, gone]
          · simp [rdropWhile_cons, gone, squeeze_empty_empty]
      | cons c line =>
          have text : (c :: line) ≠ [] := List.cons_ne_nil c line
          have kept : ((c :: line) :: rest).rdropWhile List.isEmpty =
              (c :: line) :: rest.rdropWhile List.isEmpty := by
            rw [rdropWhile_cons, if_neg (by simp)]
          constructor
          · rw [collapse.collapseAfter, after, kept, squeeze_cons_of_ne_nil text]
            exact List.cons_ne_nil c line
          · rw [collapse, if_pos rfl, after, rdropWhile_cons, kept, if_neg (by simp),
              squeeze_empty_cons_of_ne_nil text, squeeze_cons_of_ne_nil text]
            exact List.cons_ne_nil c line

/-- The pass lays the lines out. At the start no run is open, since there is no text before it. -/
theorem collapse_eq_layOut (lines : List (List Char)) : collapse false lines = layOut lines := by
  induction lines with
  | nil => rfl
  | cons line rest ih =>
      cases line with
      | nil => exact ih
      | cons c line =>
          have text : (c :: line) ≠ [] := List.cons_ne_nil c line
          rw [collapse, if_neg Bool.false_ne_true, (collapse_open rest).1, layOut,
            List.dropWhile_cons_of_neg (by simp), rdropWhile_cons, if_neg (by simp),
            squeeze_cons_of_ne_nil text]
          exact text

/-- Lines that are laid out already are left as they are. -/
theorem layOut_of_laidOut {lines : List (List Char)} (laidOut : LaidOut lines) :
    layOut lines = lines := by
  have first : lines.dropWhile List.isEmpty = lines := by
    match lines, laidOut.starts with
    | [], _ => rfl
    | [] :: rest, starts => exact absurd rfl starts
    | (c :: line) :: rest, _ => rfl
  have last : lines.rdropWhile List.isEmpty = lines := by
    rw [List.rdropWhile_eq_self_iff]
    intro nonempty empty
    have final := List.getLast?_eq_some_getLast nonempty
    rw [List.isEmpty_iff.1 empty] at final
    exact laidOut.ends final
  rw [layOut, first, last]
  exact List.destutter_of_isChain _ lines laidOut.apart

/-- What is laid out has the properties that its name says. -/
theorem laidOut_layOut (lines : List (List Char)) : LaidOut (layOut lines) where
  starts := by
    rw [layOut, head?_squeeze, ← dropWhile_rdropWhile]
    intro empty
    have solid := List.head?_dropWhile_not List.isEmpty (lines.rdropWhile List.isEmpty)
    rw [empty] at solid
    cases solid
  ends := by
    rw [layOut]
    rcases List.eq_nil_or_concat ((lines.dropWhile List.isEmpty).rdropWhile List.isEmpty) with
      gone | ⟨before, final, parts⟩
    · rw [gone]
      exact (Option.some_ne_none _).symm
    · rw [List.concat_eq_append] at parts
      have solid := List.rdropWhile_last_not List.isEmpty (lines.dropWhile List.isEmpty)
        (by rw [parts]; exact List.concat_ne_nil final before)
      simp only [parts, List.getLast_concat] at solid
      rw [parts, squeeze_concat before fun empty => solid (List.isEmpty_iff.2 empty),
        List.getLast?_concat, Ne, Option.some_inj]
      exact fun empty => solid (List.isEmpty_iff.2 empty)
  apart := List.isChain_destutter _ _

/-- Lines are left out, and none is added or moved. -/
theorem layOut_sublist (lines : List (List Char)) : (layOut lines).Sublist lines :=
  (List.destutter_sublist _ _).trans
    ((List.rdropWhile_prefix _ _).sublist.trans (List.dropWhile_sublist _))

/-- Of lines of text, none is left out. -/
theorem filter_layOut (lines : List (List Char)) :
    (layOut lines).filter (!·.isEmpty) = lines.filter (!·.isEmpty) := by
  have first (lines : List (List Char)) :
      (lines.dropWhile List.isEmpty).filter (!·.isEmpty) = lines.filter (!·.isEmpty) := by
    have gone : (lines.takeWhile List.isEmpty).filter (!·.isEmpty) = [] := by
      rw [List.filter_eq_nil_iff]
      intro line taken
      simp [List.mem_takeWhile_imp taken]
    conv_rhs => rw [← List.takeWhile_append_dropWhile (p := List.isEmpty) (l := lines),
      List.filter_append, gone, List.nil_append]
  rw [layOut, filter_squeeze, List.rdropWhile, List.filter_reverse, first, List.filter_reverse,
    List.reverse_reverse, first]

/-! ### Lines of the text

The lines that the pass leaves are lines of prose, so joining them to a text loses nothing. -/

/-- The lines of the normal form: the prose lines trimmed on the right and laid out. -/
def normalLines (docs : Documentation) : List (List Char) :=
  layOut ((docs.lines.filter fun line => !Directive.isDirectiveLine line).map fun line =>
    line.toList.rdropWhile isBlank)

/-- The lines of the text are those of the normal form. -/
theorem textLines_eq_normalLines (docs : Documentation) : docs.textLines = docs.normalLines := by
  rw [textLines, collapse_eq_layOut, prose, normalLines]
  simp only [trimEnd_eq_rdropWhile]

/-- No line of a block has a line feed. -/
def SingleLines (docs : Documentation) : Prop := ∀ line ∈ docs.lines, '\n' ∉ line.toList

instance (docs : Documentation) : Decidable docs.SingleLines :=
  inferInstanceAs (Decidable (∀ line ∈ docs.lines, '\n' ∉ line.toList))

variable {docs : Documentation} {line : List Char}

theorem laidOut_textLines (docs : Documentation) : LaidOut docs.textLines := by
  rw [textLines, collapse_eq_layOut]
  exact laidOut_layOut docs.prose

/-- A line of the text is a line of the block that is no directive, trimmed on the right. -/
theorem exists_of_mem_textLines (member : line ∈ docs.textLines) :
    ∃ source ∈ docs.lines, Directive.isDirectiveLine source = false ∧
      line = trimEnd source.toList := by
  rw [textLines, collapse_eq_layOut] at member
  obtain ⟨source, kept, rfl⟩ := List.mem_map.1 ((layOut_sublist docs.prose).subset member)
  obtain ⟨listed, plain⟩ := List.mem_filter.1 kept
  exact ⟨source, listed, by simpa using plain, rfl⟩

/-- A line of the text is trimmed on the right. -/
theorem trimEnd_of_mem_textLines (member : line ∈ docs.textLines) : trimEnd line = line := by
  obtain ⟨source, _, _, rfl⟩ := exists_of_mem_textLines member
  exact trimEnd_trimEnd source.toList

/-- No line of the text is a directive: that is decided on the trimmed line. -/
theorem not_directive_of_mem_textLines (member : line ∈ docs.textLines) :
    Directive.isDirectiveLine (String.ofList line) = false := by
  obtain ⟨source, _, plain, rfl⟩ := exists_of_mem_textLines member
  rw [Directive.isDirectiveLine, String.toList_ofList, trim_trimEnd]
  exact plain

/-- The lines of the text of a block in which no line has a line feed. -/
theorem SingleLines.proseLines (single : docs.SingleLines) : ProseLines docs.textLines where
  toLaidOut := laidOut_textLines docs
  trimmed _ := trimEnd_of_mem_textLines
  single line member := by
    obtain ⟨source, listed, _, rfl⟩ := exists_of_mem_textLines member
    rw [trimEnd_eq_rdropWhile]
    exact fun broken => single source listed ((List.rdropWhile_prefix _ _).subset broken)

/-- The lines of the text are those that were joined. -/
theorem SingleLines.lines_text (single : docs.SingleLines) :
    Text.lines docs.text.toList = docs.textLines := by
  rw [text, String.toList_ofList]
  exact single.proseLines.lines_intercalate

/-- The block of the lines of a text. -/
def ofText (text : String) : Documentation := ⟨(Text.lines text.toList).map String.ofList⟩

/-- The text as a block of its own has the same lines. -/
theorem SingleLines.textLines_ofText (single : docs.SingleLines) :
    (ofText docs.text).textLines = docs.textLines := by
  have prose : (ofText docs.text).prose = docs.textLines := by
    rw [prose, ofText, single.lines_text, List.filter_eq_self.2, List.map_map]
    · rw [List.map_congr_left fun line member => ?_, List.map_id']
      rw [Function.comp_apply, String.toList_ofList]
      exact trimEnd_of_mem_textLines member
    · intro text written
      obtain ⟨line, member, rfl⟩ := List.mem_map.1 written
      rw [not_directive_of_mem_textLines member]
      rfl
  rw [textLines, prose, collapse_eq_layOut]
  exact layOut_of_laidOut (laidOut_textLines docs)

/-! ### Empty lines around a block

Lines of a block are taken over from comments with empty lines at either end. They make no difference to
the text. -/

/-- Empty lines at either end are not laid out. -/
theorem layOut_padded (core : List (List Char)) {before after : List (List Char)}
    (first : ∀ line ∈ before, line = []) (last : ∀ line ∈ after, line = []) :
    layOut (before ++ core ++ after) = layOut core := by
  have gone : before.dropWhile List.isEmpty = [] :=
    List.dropWhile_eq_nil_iff.2 fun line member => List.isEmpty_iff.2 (first line member)
  have start (lines : List (List Char)) :
      (before ++ lines).dropWhile List.isEmpty = lines.dropWhile List.isEmpty := by
    rw [List.dropWhile_append, gone]
    rfl
  have finish (lines : List (List Char)) :
      (lines ++ after).rdropWhile List.isEmpty = lines.rdropWhile List.isEmpty := by
    rw [rdropWhile_append, if_pos]
    exact List.all_eq_true.2 fun line member => List.isEmpty_iff.2 (last line member)
  rw [layOut, layOut, List.append_assoc, start, ← dropWhile_rdropWhile, finish,
    dropWhile_rdropWhile]

/-- Empty lines are prose, and stay empty. -/
theorem prose_empty {lines : List String} (empty : ∀ line ∈ lines, line = "") :
    ∀ line ∈ (⟨lines⟩ : Documentation).prose, line = [] := by
  intro line member
  obtain ⟨source, kept, rfl⟩ := List.mem_map.1 member
  rw [empty source (List.mem_of_mem_filter kept)]
  rfl

/-- The prose of two blocks in one is the prose of each. -/
theorem prose_append (lines others : List String) :
    (⟨lines ++ others⟩ : Documentation).prose =
      (⟨lines⟩ : Documentation).prose ++ (⟨others⟩ : Documentation).prose := by
  rw [prose, List.filter_append, List.map_append]
  rfl

/-- Empty lines at either end of a block make no difference to its text. -/
theorem text_padded (core : List String) {before after : List String}
    (first : ∀ line ∈ before, line = "") (last : ∀ line ∈ after, line = "") :
    text ⟨before ++ core ++ after⟩ = text ⟨core⟩ := by
  rw [text, text, textLines, textLines, collapse_eq_layOut, collapse_eq_layOut, prose_append,
    prose_append, layOut_padded _ (prose_empty first) (prose_empty last)]

/-! ### The text as a normal form

What can be said of the text without the pass: which lines it has, where empty ones stand, and that its
own text is the same. -/

/-- A text has the lines of the normal form of a block. So it has the lines of the block that are
    neither directives nor blank, in order and with the blanks before them; it has no blank line at
    either end, nor two in a row; and it is the text of its own lines. -/
structure HasText (docs : Documentation) (text : String) : Prop where
  joined : text = String.ofList (['\n'].intercalate docs.normalLines)
  kept : (Text.lines text.toList).filter (!isBlankLine ·) =
    (docs.lines.filter fun line =>
      !Directive.isDirectiveLine line && !isBlankLine line.toList).map fun line =>
        line.toList.rdropWhile isBlank
  starts : ∀ line ∈ (Text.lines text.toList).head?, isBlankLine line = false
  ends : ∀ line ∈ (Text.lines text.toList).getLast?, isBlankLine line = false
  apart : (Text.lines text.toList).IsChain fun line next =>
    ¬(isBlankLine line = true ∧ isBlankLine next = true)
  again : (ofText text).text = text

theorem blank_of_mem_textLines (member : line ∈ docs.textLines) :
    isBlankLine line = line.isEmpty := isBlankLine_of_trimmed (trimEnd_of_mem_textLines member)

/-- The lines of text are the lines of the block that are neither directives nor blank. -/
theorem filter_textLines (docs : Documentation) :
    docs.textLines.filter (!isBlankLine ·) =
      (docs.lines.filter fun line =>
        !Directive.isDirectiveLine line && !isBlankLine line.toList).map fun line =>
          line.toList.rdropWhile isBlank := by
  have ofLines : docs.textLines.filter (!isBlankLine ·) = docs.textLines.filter (!·.isEmpty) :=
    List.filter_congr fun line member => congrArg (!·) (blank_of_mem_textLines member)
  have blank (line : String) :
      (line.toList.rdropWhile isBlank).isEmpty = isBlankLine line.toList := by
    rw [Bool.eq_iff_iff, List.isEmpty_iff, ← trimEnd_eq_rdropWhile, trimEnd_eq_nil_iff]
  rw [ofLines, textLines, collapse_eq_layOut, filter_layOut, prose, List.filter_map,
    List.filter_filter]
  simp only [Function.comp_def, trimEnd_eq_rdropWhile, blank]
  exact congrArg _ (List.filter_congr fun _ _ => Bool.and_comm _ _)

/-- The free text of a block is its normal form. -/
theorem hasText_text {docs : Documentation} (single : docs.SingleLines) :
    docs.HasText docs.text where
  joined := by rw [text, textLines_eq_normalLines]
  kept := by
    rw [single.lines_text]
    exact filter_textLines docs
  starts := by
    intro line first
    rw [single.lines_text] at first
    rw [blank_of_mem_textLines (List.mem_of_head? first)]
    exact Bool.eq_false_iff.2 fun empty =>
      (laidOut_textLines docs).starts (List.isEmpty_iff.1 empty ▸ first)
  ends := by
    intro line last
    rw [single.lines_text] at last
    rw [blank_of_mem_textLines (List.mem_of_getLast? last)]
    exact Bool.eq_false_iff.2 fun empty =>
      (laidOut_textLines docs).ends (List.isEmpty_iff.1 empty ▸ last)
  apart := by
    rw [single.lines_text]
    apply List.IsChain.imp_of_mem_imp _ (laidOut_textLines docs).apart
    intro line next member member' apart
    rw [blank_of_mem_textLines member, blank_of_mem_textLines member', List.isEmpty_iff,
      List.isEmpty_iff]
    exact not_and_or.2 apart
  again := by rw [text, single.textLines_ofText, ← text]

/-- Prose with blank lines around it, in which directives stand between blank lines and right before
    text. -/
def mixedLines : Documentation := ⟨["", "  First line. ", " ", "openapi:tag items", "\t", "Second line.",
  "openapi:unknown", "Third line.", "", "openapi:info", ""]⟩

/-- The directives of the block leave no trace in its text, and the indentation stays. -/
theorem hasText_text_mixedLines :
    mixedLines.SingleLines ∧ mixedLines.text = "  First line.\n\nSecond line.\nThird line." ∧
      mixedLines.HasText mixedLines.text := by
  have single : mixedLines.SingleLines := by decide
  have written : mixedLines.text = "  First line.\n\nSecond line.\nThird line." := by decide +kernel
  exact ⟨single, written, hasText_text single⟩

end Documentation

end SwaggerDocs
