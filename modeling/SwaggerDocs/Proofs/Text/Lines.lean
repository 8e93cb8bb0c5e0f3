/-
Module: SwaggerDocs.Proofs.Text.Lines
Purpose: Texts and their lines: what trimming takes away, and that lines joined by line feeds are the
  lines of the text. Trimming at either end commutes, also for lists of lines in place of characters.
Main exports: rdropWhile_cons, dropWhile_rdropWhile, rdropWhile_append, trimEnd_eq_rdropWhile,
  trim_trimEnd, isBlankLine, trimEnd_eq_nil_iff, trim_eq_nil_iff, splitOn_eq_splitOn, splitOn_append,
  lines_of_notMem, lines_line, lines_intercalate, trim_intercalate
-/
import Mathlib.Data.List.DropRight
import SwaggerDocs.Proofs.Text.Scan

namespace SwaggerDocs.Text

/-! ### Both ends of a list

Dropping from the end is put by recursion from the front, as texts and lines are read that way. -/

section Ends

variable {α : Type} (p : α → Bool)

/-- Items at the end are taken away after those of the rest. -/
theorem rdropWhile_cons (a : α) (rest : List α) :
    (a :: rest).rdropWhile p =
      if rest.rdropWhile p = [] ∧ p a = true then [] else a :: rest.rdropWhile p := by
  simp only [List.rdropWhile, List.reverse_cons, List.dropWhile_append, List.isEmpty_iff,
    List.reverse_eq_nil_iff]
  by_cases gone : rest.reverse.dropWhile p = []
  · by_cases taken : p a = true
    · simp [gone, taken]
    · simp [gone, taken]
  · simp [gone]

/-- It makes no difference at which end items are taken away first. -/
theorem dropWhile_rdropWhile (items : List α) :
    (items.rdropWhile p).dropWhile p = (items.dropWhile p).rdropWhile p := by
  induction items with
  | nil => rfl
  | cons a rest ih =>
      rw [rdropWhile_cons]
      by_cases taken : p a = true
      · rw [List.dropWhile_cons_of_pos taken, ← ih]
        by_cases gone : rest.rdropWhile p = []
        · simp [gone, taken]
        · rw [if_neg fun both => gone both.1, List.dropWhile_cons_of_pos taken]
      · rw [if_neg fun both => taken both.2, List.dropWhile_cons_of_neg taken,
          List.dropWhile_cons_of_neg taken, rdropWhile_cons, if_neg fun both => taken both.2]

/-- Items at the end are taken away from the second of two lists, and from the first only if nothing
    of the second is left. -/
theorem rdropWhile_append (items more : List α) :
    (items ++ more).rdropWhile p =
      if more.all p = true then items.rdropWhile p else items ++ more.rdropWhile p := by
  have gone : (more.reverse.dropWhile p).isEmpty = more.all p := by
    rw [Bool.eq_iff_iff, List.isEmpty_iff, List.dropWhile_eq_nil_iff, List.all_eq_true]
    simp only [List.mem_reverse]
  rw [List.rdropWhile, List.reverse_append, List.dropWhile_append, gone]
  split
  · rfl
  · rw [List.reverse_append, List.reverse_reverse]
    rfl

end Ends

/-! ### Trimming

What trimming leaves depends on neither order nor number of times, and is empty only for a blank text.
-/

/-- To trim at the end is to drop blank characters from the end. -/
theorem trimEnd_eq_rdropWhile (cs : List Char) : trimEnd cs = cs.rdropWhile isBlank := by
  induction cs with
  | nil => rfl
  | cons c rest ih =>
      rw [trimEnd, rdropWhile_cons, ih]
      cases rest.rdropWhile isBlank with
      | nil => simp
      | cons d kept => simp

theorem trimEnd_trimEnd (cs : List Char) : trimEnd (trimEnd cs) = trimEnd cs := by
  simp only [trimEnd_eq_rdropWhile, List.rdropWhile_idempotent]

/-- Trimming at both ends, in the other order. -/
theorem trimStart_trimEnd (cs : List Char) : trimStart (trimEnd cs) = trim cs := by
  rw [trim, trimEnd_eq_rdropWhile, trimEnd_eq_rdropWhile, trimStart, trimStart, dropWhile_rdropWhile]

/-- A text is trimmed to the same whether or not its end is trimmed before. -/
theorem trim_trimEnd (cs : List Char) : trim (trimEnd cs) = trim cs := by
  rw [trim, trimStart_trimEnd, trim, trimEnd_trimEnd]

/-- A line of blank characters alone. -/
def isBlankLine (line : List Char) : Bool := line.all isBlank

/-- Only a blank line is trimmed away at its end. -/
theorem trimEnd_eq_nil_iff {line : List Char} : trimEnd line = [] ↔ isBlankLine line = true := by
  rw [trimEnd_eq_rdropWhile, List.rdropWhile_eq_nil_iff, isBlankLine, List.all_eq_true]

/-- Only a blank text is trimmed away. -/
theorem trim_eq_nil_iff {cs : List Char} : trim cs = [] ↔ isBlankLine cs = true := by
  rw [← trimStart_trimEnd, trimStart, List.dropWhile_eq_nil_iff, ← trimEnd_eq_nil_iff]
  constructor
  · intro blank
    have whole := trimEnd_eq_nil_iff.2 (List.all_eq_true.2 blank)
    rwa [trimEnd_trimEnd] at whole
  · rintro gone c member
    rw [gone] at member
    cases member

/-- Something is left of a text that does not end in a blank. -/
theorem EndsSolid.trim_ne_nil {cs : List Char} (ends : EndsSolid cs) : trim cs ≠ [] := by
  obtain ⟨c, last, solid⟩ := ends
  rw [Ne, trim_eq_nil_iff, isBlankLine, List.all_eq_true]
  intro blank
  rw [blank c (List.mem_of_getLast? last)] at solid
  cases solid

/-- A trimmed line of text ends in a character that is not blank. -/
theorem endsSolid_of_trimmed {cs : List Char} (trimmed : trimEnd cs = cs) (text : cs ≠ []) :
    EndsSolid cs := by
  have last := List.getLast?_eq_some_getLast text
  exact ⟨_, last, getLast?_trimEnd cs _ (trimmed.symm ▸ last)⟩

/-- Of the lines that are trimmed, only the empty one is blank. -/
theorem isBlankLine_of_trimmed {line : List Char} (trimmed : trimEnd line = line) :
    isBlankLine line = line.isEmpty := by
  rw [Bool.eq_iff_iff, ← trimEnd_eq_nil_iff, trimmed, List.isEmpty_iff]

/-- Blank characters before a line of text are all that is trimmed off at the beginning. -/
theorem trimStart_append_of_text {line : List Char} (text : isBlankLine line = false)
    (more : List Char) : trimStart (line ++ more) = trimStart line ++ more := by
  rw [trimStart, trimStart, List.dropWhile_append, if_neg]
  rw [List.isEmpty_iff, List.dropWhile_eq_nil_iff, ← List.all_eq_true]
  exact Bool.eq_false_iff.1 text

/-! ### Joining

Lines are the pieces between line feeds, without a carriage return at the end of each and without an
empty piece at the end of the text. -/

/-- Splitting is that of the library. -/
theorem splitOn_eq_splitOn (separator : Char) (cs : List Char) :
    splitOn separator cs = cs.splitOn separator := by
  induction cs with
  | nil => rfl
  | cons c rest ih =>
      rw [splitOn, List.splitOn_cons_eq_if_modifyHead, ih]
      by_cases same : c = separator
      · simp [same]
      · obtain ⟨piece, pieces, split⟩ :=
          List.exists_cons_of_ne_nil (List.splitOn_ne_nil separator rest)
        simp [same, split]

/-- A line without a carriage return loses none. -/
theorem dropReturn_of_notMem {line : List Char} (returnless : '\r' ∉ line) :
    dropReturn line = line := by
  rw [dropReturn]
  split
  · rename_i rest reversed
    have inside : '\r' ∈ line.reverse := reversed ▸ List.mem_cons_self
    exact absurd (List.mem_reverse.1 inside) returnless
  · rfl

/-- There is a piece even of the empty text. -/
theorem splitOn_ne_nil (separator : Char) (cs : List Char) : splitOn separator cs ≠ [] := by
  rw [splitOn_eq_splitOn]
  exact List.splitOn_ne_nil separator cs

/-- The pieces before a separator and those after it. -/
theorem splitOn_append (separator : Char) (cs rest : List Char) :
    splitOn separator (cs ++ separator :: rest) =
      splitOn separator cs ++ splitOn separator rest := by
  induction cs with
  | nil => exact if_pos rfl
  | cons c cs ih =>
      obtain ⟨piece, pieces, split⟩ := List.exists_cons_of_ne_nil (splitOn_ne_nil separator cs)
      rw [List.cons_append, splitOn, splitOn, ih, split]
      by_cases same : c = separator
      · rw [if_pos same, if_pos same]
        rfl
      · rw [if_neg same, if_neg same]
        rfl

/-- A text without the separator is one piece. -/
theorem splitOn_of_notMem {separator : Char} {line : List Char} (single : separator ∉ line) :
    splitOn separator line = [line] := by
  rw [splitOn_eq_splitOn]
  exact List.splitOn_eq_singleton single

/-- Only the empty text has an empty piece and no other. -/
theorem splitOn_eq_empty_iff {separator : Char} {cs : List Char} :
    splitOn separator cs = [[]] ↔ cs = [] := by
  constructor
  · intro single
    have joined : [separator].intercalate (cs.splitOn separator) = cs :=
      List.intercalate_splitOn separator
    rwa [← splitOn_eq_splitOn, single, List.intercalate_singleton, eq_comm] at joined
  · rintro rfl
    rfl

/-- A text without a line feed is one line, unless it is empty. -/
theorem lines_of_notMem {line : List Char} (single : '\n' ∉ line) :
    lines line = if line = [] then [] else [line] := by
  rw [lines, splitOn_of_notMem single]
  cases line with
  | nil => rfl
  | cons c line => rfl

/-- A line that is ended by a line feed is the first line. -/
theorem lines_line {line : List Char} (single : '\n' ∉ line) (rest : List Char) :
    lines (line ++ '\n' :: rest) = dropReturn line :: lines rest := by
  obtain ⟨piece, pieces, split⟩ := List.exists_cons_of_ne_nil (splitOn_ne_nil '\n' rest)
  rw [lines, lines, splitOn_append, splitOn_of_notMem single, split, List.singleton_append,
    List.dropLast_cons_cons, List.getLast?_cons_cons, List.map_cons]
  split
  · rfl
  · rfl
  · exact List.cons_append

/-- A trimmed line does not end in a carriage return. -/
theorem dropReturn_of_trimmed {line : List Char} (trimmed : trimEnd line = line) :
    dropReturn line = line := by
  rw [dropReturn]
  split
  · rename_i rest reversed
    have ends : line.getLast? = some '\r' := by
      rw [← List.head?_reverse, reversed]
      rfl
    have solid := getLast?_trimEnd line '\r' (trimmed.symm ▸ ends)
    exact absurd solid (by decide)
  · rfl

/-- Trimmed lines come back from the text that they are joined to, unless its last line is empty. -/
theorem lines_intercalate {parts : List (List Char)} (single : ∀ line ∈ parts, '\n' ∉ line)
    (trimmed : ∀ line ∈ parts, trimEnd line = line) (ends : parts.getLast? ≠ some []) :
    lines (['\n'].intercalate parts) = parts := by
  rcases List.eq_nil_or_concat parts with rfl | ⟨before, last, rfl⟩
  · rfl
  · rw [List.concat_eq_append] at single trimmed ends ⊢
    have solid : last ≠ [] := by
      rintro rfl
      exact ends List.getLast?_concat
    have pieces : splitOn '\n' (['\n'].intercalate (before ++ [last])) = before ++ [last] := by
      rw [splitOn_eq_splitOn]
      exact List.splitOn_intercalate '\n' single (List.append_ne_nil_of_right_ne_nil _ (by simp))
    have kept : before.map dropReturn = before := by
      rw [List.map_congr_left fun line member =>
        dropReturn_of_trimmed (trimmed line (List.mem_append_left _ member)), List.map_id']
    rw [lines, pieces, List.getLast?_concat, List.dropLast_concat, kept]
    cases last with
    | nil => exact absurd rfl solid
    | cons c rest => rfl

/-- Joined lines end as the last of them does. -/
theorem endsSolid_intercalate {parts : List (List Char)} {last : List Char}
    (ends : parts.getLast? = some last) (solid : EndsSolid last) :
    EndsSolid (['\n'].intercalate parts) := by
  induction parts with
  | nil => cases ends
  | cons part rest ih =>
      cases rest with
      | nil =>
          cases ends
          rwa [List.intercalate_singleton]
      | cons next rest =>
          rw [List.getLast?_cons_cons] at ends
          obtain ⟨c, final, plain⟩ := ih ends
          refine ⟨c, ?_, plain⟩
          rw [List.intercalate_cons_cons, List.getLast?_append, final]
          rfl

/-- Of joined lines that start with a line of text, only the blanks before it are trimmed off. -/
theorem trim_intercalate {next : List Char} {others : List (List Char)}
    (text : isBlankLine next = false) (ends : EndsSolid (['\n'].intercalate (next :: others))) :
    trim (['\n'].intercalate (next :: others)) = ['\n'].intercalate (trimStart next :: others) := by
  rw [← trimStart_trimEnd, trimEnd_eq_self ends]
  cases others with
  | nil => rw [List.intercalate_singleton, List.intercalate_singleton]
  | cons line others =>
      rw [List.intercalate_cons_cons, List.intercalate_cons_cons, List.append_assoc,
        trimStart_append_of_text text, List.append_assoc]

/-- An empty line before joined lines is trimmed off. -/
theorem trim_intercalate_empty (next : List Char) (others : List (List Char)) :
    trim (['\n'].intercalate ([] :: next :: others)) = trim (['\n'].intercalate (next :: others)) := by
  rw [List.intercalate_cons_cons, List.nil_append, List.singleton_append, trim, trim, trimStart,
    trimStart, List.dropWhile_cons_of_pos (by decide)]

end SwaggerDocs.Text
