/-
Module: SwaggerDocs.Proofs.Source.Comments
Purpose: Two styles of documentation comments. The same lines can be written as a comment for each line,
  or as one comment of several lines with an asterisk before each. The second style gives an empty line
  more at the beginning, and loses empty lines at the end; the blanks and asterisks of a line itself
  stay in both. Nothing that is read from documentation depends on such empty lines, so both styles
  document the same.
Main exports: Documentation.readsAs_padded, Lexer.ReadAs, IsContent, AreLineComments, IsBlockComment,
  DocumentsAs, SourcesReadAlike, comment_styles_read_alike
-/
import Mathlib.Data.List.Infix
import SwaggerDocs.Proofs.Docs.Prose
import SwaggerDocs.Proofs.Generation.Wording
import SwaggerDocs.Proofs.Source.Attributes

namespace SwaggerDocs

open Text (isBlank trimStart trimEnd)

/-! ### Blank lines around documentation

Everything that is read from documentation goes by lines, and nothing is read from an empty one. For the
free text this was shown before. -/

namespace Documentation

/-- A reader that takes nothing from an empty line takes nothing from empty lines around others. -/
theorem filterMap_padded {β : Type} {read : String → Option β} (passed : read "" = none)
    (core : List String) {before after : List String} (first : ∀ line ∈ before, line = "")
    (last : ∀ line ∈ after, line = "") :
    (before ++ core ++ after).filterMap read = core.filterMap read := by
  have gone {lines : List String} (empty : ∀ line ∈ lines, line = "") :
      lines.filterMap read = [] :=
    List.filterMap_eq_nil_iff.2 fun line member => by rw [empty line member, passed]
  rw [List.filterMap_append, List.filterMap_append, gone first, gone last, List.nil_append,
    List.append_nil]

/-- Empty lines at either end make no difference. -/
theorem readsAs_padded (core : List String) {before after : List String}
    (first : ∀ line ∈ before, line = "") (last : ∀ line ∈ after, line = "") :
    (⟨before ++ core ++ after⟩ : Documentation).ReadsAs ⟨core⟩ where
  text := text_padded core first last
  spec := filterMap_padded (by decide) core first last
  schema := filterMap_padded (by decide) core first last
  operations := filterMap_padded (by decide) core first last
  bindings := filterMap_padded (by decide) core first last

end Documentation

namespace Source

/-! ### Comments in front of a text

Source texts are put together from comments, so what they are read as is said in front of any text. The
number of steps is bounded by the length of the text, as the fuel of the lexer is. -/

namespace Lexer

/-- A source text that is read as tokens, before whatever text it stands; then reading goes on with that
    text. -/
def ReadAs (source : List Char) (tokens : List Token) : Prop :=
  ∃ steps ≤ source.length, ∀ fuel rest,
    lexemes? (steps + fuel) (source ++ rest) =
      (lexemes? fuel rest).map (tokens.map Lexeme.leaf ++ ·)

theorem readAs_nil : ReadAs [] [] := by
  refine ⟨0, Nat.le_refl 0, fun fuel rest => ?_⟩
  rw [Nat.zero_add, List.nil_append]
  exact Option.map_id'.symm

/-- Texts in turn give their tokens in turn. -/
theorem ReadAs.append {source other : List Char} {tokens others : List Token}
    (first : ReadAs source tokens) (second : ReadAs other others) :
    ReadAs (source ++ other) (tokens ++ others) := by
  obtain ⟨steps, few, first⟩ := first
  obtain ⟨more, fewer, second⟩ := second
  refine ⟨steps + more, ?_, fun fuel rest => ?_⟩
  · rw [List.length_append]
    exact Nat.add_le_add few fewer
  · rw [Nat.add_assoc, List.append_assoc, first, second, Option.map_map, List.map_append]
    congr 1
    funext later
    exact (List.append_assoc _ _ _).symm

/-- One step of reading, and then the rest with less fuel. -/
theorem lexemes?_succ_cons (fuel : Nat) (c : Char) (cs : List Char) :
    lexemes? (fuel + 1) (c :: cs) =
      (step? c cs).bind fun read => (lexemes? fuel read.2).map (read.1 ++ ·) := by
  rw [lexemes?]
  cases step? c cs <;> rfl

/-- A text that one step reads to its end. -/
theorem readAs_of_step {c : Char} {source : List Char} {tokens : List Token}
    (step : ∀ rest, step? c (source ++ rest) = some (tokens.map Lexeme.leaf, rest)) :
    ReadAs (c :: source) tokens := by
  refine ⟨1, Nat.le_add_left 1 source.length, fun fuel rest => ?_⟩
  rw [Nat.add_comm, List.cons_append, lexemes?_succ_cons, step, Option.bind_some]

/-- A character that only separates gives no token. -/
theorem readAs_separator {c : Char} (separates : isSeparator c = true) : ReadAs [c] [] := by
  apply readAs_of_step
  intro rest
  rw [step?, if_pos separates]
  rfl

theorem readAs_separators {cs : List Char} (separate : ∀ c ∈ cs, isSeparator c = true) :
    ReadAs cs [] := by
  induction cs with
  | nil => exact readAs_nil
  | cons c cs ih =>
      obtain ⟨first, later⟩ := List.forall_mem_cons.1 separate
      exact (readAs_separator first).append (ih later)

/-- A documentation comment without lone carriage returns is one step. -/
theorem step?_documentation {cs rest text : List Char} {placement : Placement}
    (comment : comment? ('/' :: cs) = some (.documentation placement text, rest))
    (returnless : hasBareReturn text = false) :
    step? '/' cs = some ((documentationTokens placement text).map Lexeme.leaf, rest) := by
  have solid : isSeparator '/' = false := by decide
  rw [step?, if_neg (Bool.eq_false_iff.1 solid), comment]
  simp only [returnless, Bool.false_eq_true, if_false]

/-- A text without carriage returns has no lone one. -/
theorem hasBareReturn_eq_false {text : List Char} (returnless : '\r' ∉ text) :
    hasBareReturn text = false := by
  induction text with
  | nil => rfl
  | cons c text ih =>
      obtain ⟨first, returnless⟩ := not_or.1 (mt List.mem_cons.2 returnless)
      rw [hasBareReturn, ih returnless]
      · simpa using Ne.symm first
      · exact fun _ same => absurd same.symm first

/-! #### Comments of one line

Such a comment ends at the line feed, which is not part of it. -/

/-- A comment of one line goes up to the line feed. -/
theorem splitLineEnd_line {line : List Char} (single : '\n' ∉ line) (returnless : '\r' ∉ line)
    (rest : List Char) : splitLineEnd (line ++ '\n' :: rest) = (line, '\n' :: rest) := by
  induction line with
  | nil => rfl
  | cons c line ih =>
      obtain ⟨feedless, single⟩ := not_or.1 (mt List.mem_cons.2 single)
      obtain ⟨first, returnless⟩ := not_or.1 (mt List.mem_cons.2 returnless)
      rw [List.cons_append, splitLineEnd, ih single returnless]
      · exact fun same => feedless same.symm
      · exact fun _ same => absurd same.symm first

/-- How a documentation comment of one line begins. -/
def lineMark : Placement → List Char
  | .outer => ['/', '/', '/']
  | .inner => ['/', '/', '!']

/-- A line after the beginning of its comment: a blank stands before it, unless it is empty. -/
def padded : List Char → List Char
  | [] => []
  | line => ' ' :: line

/-- The blank before a line is all that is added to it. -/
theorem mem_padded {c : Char} (solid : c ≠ ' ') {line : List Char} (member : c ∈ padded line) :
    c ∈ line := by
  cases line with
  | nil => exact member
  | cons d line => exact (List.mem_cons.1 member).resolve_left solid

/-- A comment of one line, with the end of the line. -/
theorem readAs_lineComment (placement : Placement) {line : List Char} (single : '\n' ∉ line)
    (returnless : '\r' ∉ line) :
    ReadAs (lineMark placement ++ padded line ++ ['\n'])
      (documentationTokens placement (padded line)) := by
  have feedless : '\n' ∉ padded line := fun member => single (mem_padded (by decide) member)
  have returnless : '\r' ∉ padded line := fun member => returnless (mem_padded (by decide) member)
  have comment (rest : List Char) : comment? (lineMark placement ++ (padded line ++ '\n' :: rest)) =
      some (.documentation placement (padded line), '\n' :: rest) := by
    have ended := splitLineEnd_line feedless returnless rest
    have read : comment? (lineMark placement ++ (padded line ++ '\n' :: rest)) =
        some (.documentation placement (splitLineEnd (padded line ++ '\n' :: rest)).1,
          (splitLineEnd (padded line ++ '\n' :: rest)).2) := by
      cases placement <;> cases line <;> rfl
    rw [read, ended]
  -- one step for the comment, and one for the end of its line
  refine ⟨2, ?_, fun fuel rest => ?_⟩
  · cases placement <;> simp [lineMark]
  · have after : step? '\n' rest = some ([], rest) := if_pos (by decide)
    have first : ∃ cs, lineMark placement ++ (padded line ++ '\n' :: rest) = '/' :: cs := by
      cases placement <;> exact ⟨_, rfl⟩
    obtain ⟨cs, begins⟩ := first
    have whole : lineMark placement ++ padded line ++ ['\n'] ++ rest = '/' :: cs := by
      rw [← begins, List.append_assoc, List.append_assoc]
      rfl
    have step := step?_documentation (begins ▸ comment rest) (hasBareReturn_eq_false returnless)
    rw [whole, Nat.add_comm, lexemes?_succ_cons, step, Option.bind_some, lexemes?_succ_cons, after,
      Option.bind_some, Option.map_map]
    rfl

/-! #### Comments of several lines

Such a comment may have others inside it, so its text is followed with the number of those that are open.
Texts that neither open nor close one leave this number as it is. -/

/-- Two characters in a row that neither open nor close a comment. -/
def Apart (c next : Char) : Prop := ¬(c = '*' ∧ next = '/') ∧ ¬(c = '/' ∧ next = '*')

/-- A character that neither opens nor closes a comment is part of the text. -/
theorem splitBlock?_of_apart {c next : Char} (apart : Apart c next) (rest : List Char) :
    splitBlock? 0 (c :: next :: rest) =
      (splitBlock? 0 (next :: rest)).map fun (text, rest) => (c :: text, rest) := by
  rw [splitBlock?]
  · rintro _ rfl parts
    exact apart.2 ⟨rfl, (List.cons.inj parts).1⟩
  · rintro _ _ rfl parts
    exact apart.1 ⟨rfl, (List.cons.inj parts).1⟩
  · intro depth _ absurd
    cases absurd

/-- A text in which no comment is opened or closed is read up to the end of its comment. -/
theorem splitBlock?_body {body : List Char} (apart : (body ++ ['*']).IsChain Apart)
    (rest : List Char) : splitBlock? 0 (body ++ '*' :: '/' :: rest) = some (body, rest) := by
  induction body with
  | nil => rfl
  | cons c body ih =>
      have later := ih (List.isChain_of_isChain_cons apart)
      cases body with
      | nil =>
          have first : Apart c '*' := (List.isChain_cons_cons.1 apart).1
          rw [List.nil_append] at later
          rw [List.cons_append, List.nil_append, splitBlock?_of_apart first, later]
          rfl
      | cons next body =>
          have first : Apart c next := (List.isChain_cons_cons.1 apart).1
          rw [List.cons_append, List.cons_append, splitBlock?_of_apart first, ← List.cons_append, later]
          rfl

/-- How a documentation comment of several lines begins. -/
def blockMark : Placement → List Char
  | .outer => ['/', '*', '*']
  | .inner => ['/', '*', '!']

/-- A comment that begins with the end of its first line. Another character in that place could make it
    a plain one. -/
theorem readAs_blockComment (placement : Placement) {body : List Char} (returnless : '\r' ∉ body)
    (apart : ('\n' :: body ++ ['*']).IsChain Apart) :
    ReadAs (blockMark placement ++ '\n' :: body ++ ['*', '/'])
      (documentationTokens placement ('\n' :: body)) := by
  have returnless : '\r' ∉ '\n' :: body := fun member =>
    returnless ((List.mem_cons.1 member).resolve_left (by decide))
  have comment (rest : List Char) :
      comment? (blockMark placement ++ ('\n' :: body ++ '*' :: '/' :: rest)) =
        some (.documentation placement ('\n' :: body), rest) := by
    have read : comment? (blockMark placement ++ ('\n' :: body ++ '*' :: '/' :: rest)) =
        (splitBlock? 0 ('\n' :: body ++ '*' :: '/' :: rest)).map fun found =>
          (.documentation placement found.1, found.2) := by
      cases placement <;> rfl
    rw [read, splitBlock?_body apart]
    rfl
  have first : ∃ cs, blockMark placement ++ '\n' :: body ++ ['*', '/'] = '/' :: cs := by
    cases placement <;> exact ⟨_, rfl⟩
  obtain ⟨cs, begins⟩ := first
  rw [begins]
  apply readAs_of_step
  intro rest
  apply step?_documentation _ (hasBareReturn_eq_false returnless)
  rw [← List.cons_append, ← begins, List.append_assoc, List.append_assoc]
  exact comment rest

/-- A character that is no part of the marks of comments. -/
def Neutral (c : Char) : Prop := c ≠ '*' ∧ c ≠ '/'

/-- A neutral character opens or closes no comment, whatever follows it. -/
theorem Neutral.apart_left {c : Char} (neutral : Neutral c) (next : Char) : Apart c next :=
  ⟨fun both => neutral.1 both.1, fun both => neutral.2 both.1⟩

theorem Neutral.apart_right {next : Char} (neutral : Neutral next) (c : Char) : Apart c next :=
  ⟨fun both => neutral.2 both.2, fun both => neutral.1 both.2⟩

/-- A neutral character may stand before a text without marks. -/
theorem isChain_neutral_cons {c : Char} (neutral : Neutral c) {cs : List Char}
    (apart : cs.IsChain Apart) : (c :: cs).IsChain Apart :=
  List.isChain_cons.2 ⟨fun next _ => neutral.apart_left next, apart⟩

/-- Neutral characters may stand before a text without marks. -/
theorem isChain_neutral_append {front cs : List Char} (neutral : ∀ c ∈ front, Neutral c)
    (apart : cs.IsChain Apart) : (front ++ cs).IsChain Apart := by
  induction front with
  | nil => exact apart
  | cons c front ih =>
      obtain ⟨first, later⟩ := List.forall_mem_cons.1 neutral
      exact isChain_neutral_cons first (ih later)

/-- Texts that hold no marks hold none when each is ended by a line feed. -/
theorem isChain_lines {parts : List (List Char)} {rest : List Char}
    (apart : ∀ part ∈ parts, part.IsChain Apart) (later : rest.IsChain Apart) :
    (parts.flatMap (· ++ ['\n']) ++ rest).IsChain Apart := by
  have feed : Neutral '\n' := ⟨by decide, by decide⟩
  induction parts with
  | nil => exact later
  | cons part parts ih =>
      obtain ⟨first, others⟩ := List.forall_mem_cons.1 apart
      rw [List.flatMap_cons, List.append_assoc, List.append_assoc, List.isChain_append]
      refine ⟨first, isChain_neutral_cons feed (ih others), fun c _ next started => ?_⟩
      obtain rfl := Option.some.inj started
      exact feed.apart_right c

end Lexer

/-! ### Written lines

How lines are written in either style, with any indentation. A line is excluded if no comment can hold
it: one that ends a line, or that opens or closes a comment. -/

/-- A line that comments of both styles can hold. -/
structure IsContent (line : List Char) : Prop where
  feedless : '\n' ∉ line
  returnless : '\r' ∉ line
  unopened : ¬['/', '*'] <:+: line
  unclosed : ¬['*', '/'] <:+: line

/-- Blanks at the beginning of a line. -/
structure IsIndent (indent : List Char) : Prop where
  blank : ∀ c ∈ indent, isBlank c = true
  feedless : '\n' ∉ indent
  returnless : '\r' ∉ indent

instance (line : List Char) : Decidable (IsContent line) :=
  decidable_of_iff ('\n' ∉ line ∧ '\r' ∉ line ∧ ¬['/', '*'] <:+: line ∧ ¬['*', '/'] <:+: line)
    ⟨fun ⟨feedless, returnless, unopened, unclosed⟩ => ⟨feedless, returnless, unopened, unclosed⟩,
      fun content => ⟨content.feedless, content.returnless, content.unopened, content.unclosed⟩⟩

instance (indent : List Char) : Decidable (IsIndent indent) :=
  decidable_of_iff (indent.all isBlank = true ∧ '\n' ∉ indent ∧ '\r' ∉ indent)
    ⟨fun ⟨blank, feedless, returnless⟩ => ⟨List.all_eq_true.1 blank, feedless, returnless⟩,
      fun indented => ⟨List.all_eq_true.2 indented.blank, indented.feedless, indented.returnless⟩⟩

/-- A line is written as a comment of its own. -/
def IsLineComment (placement : Lexer.Placement) (line written : List Char) : Prop :=
  ∃ indent, IsIndent indent ∧ written = indent ++ Lexer.lineMark placement ++ Lexer.padded line

/-- A line is written as a line of a longer comment, after an asterisk and a blank. After an empty one
    there need not be a blank. -/
def IsBlockLine (line written : List Char) : Prop :=
  ∃ indent, IsIndent indent ∧
    (written = indent ++ '*' :: ' ' :: line ∨ line = [] ∧ written = indent ++ ['*'])

/-- Lines are written as comments of their own, each on a line. -/
def AreLineComments (placement : Lexer.Placement) (lines : List (List Char)) (source : List Char) :
    Prop :=
  ∃ written, List.Forall₂ (IsLineComment placement) lines written ∧
    source = written.flatMap (· ++ ['\n'])

/-- Lines are written as one comment, whose marks stand on lines of their own. -/
def IsBlockComment (placement : Lexer.Placement) (lines : List (List Char)) (source : List Char) :
    Prop :=
  ∃ indent written closing, IsIndent indent ∧ IsIndent closing ∧
    List.Forall₂ IsBlockLine lines written ∧
    source = indent ++ (Lexer.blockMark placement ++
      '\n' :: (written.flatMap (· ++ ['\n']) ++ closing) ++ ['*', '/'])

/-! ### Reading what was written

What is written in either style is read as documentation tokens: one comment for each line, or a single
one for all. -/

section Reading

variable {line written indent : List Char} {lines : List (List Char)}

theorem IsIndent.readAs (indented : IsIndent indent) : Lexer.ReadAs indent [] := by
  apply Lexer.readAs_separators
  intro c member
  rw [Lexer.isSeparator, indented.blank c member]
  rfl

theorem IsIndent.neutral (indented : IsIndent indent) : ∀ c ∈ indent, Lexer.Neutral c := by
  intro c member
  have blank := indented.blank c member
  constructor
  · rintro rfl
    exact absurd blank (by decide)
  · rintro rfl
    exact absurd blank (by decide)

/-- Comments of their own are read as the tokens of their lines. -/
theorem readAs_lineComments {placement : Lexer.Placement} {source : List Char}
    (content : ∀ line ∈ lines, IsContent line) (asLines : AreLineComments placement lines source) :
    Lexer.ReadAs source
      (lines.flatMap fun line => Lexer.documentationTokens placement (Lexer.padded line)) := by
  obtain ⟨written, each, rfl⟩ := asLines
  induction each with
  | nil => exact Lexer.readAs_nil
  | @cons line text lines texts first _ ih =>
      obtain ⟨indent, indented, rfl⟩ := first
      obtain ⟨plain, later⟩ := List.forall_mem_cons.1 content
      have comment := Lexer.readAs_lineComment placement plain.feedless plain.returnless
      rw [List.flatMap_cons, List.flatMap_cons, List.append_assoc indent, List.append_assoc indent]
      exact (indented.readAs.append comment).append (ih later)

/-- In a text without marks, no two characters in a row are one. -/
theorem isChain_of_unmarked (unopened : ¬['/', '*'] <:+: line) (unclosed : ¬['*', '/'] <:+: line) :
    line.IsChain Lexer.Apart := by
  induction line with
  | nil => exact List.isChain_nil
  | cons c line ih =>
      cases line with
      | nil => exact List.isChain_singleton c
      | cons next line =>
          have later := ih (fun inside => unopened (inside.trans (List.suffix_cons c _).isInfix))
            fun inside => unclosed (inside.trans (List.suffix_cons c _).isInfix)
          refine List.isChain_cons_cons.2 ⟨⟨?_, ?_⟩, later⟩
          · rintro ⟨rfl, rfl⟩
            exact unclosed (List.prefix_append ['*', '/'] line).isInfix
          · rintro ⟨rfl, rfl⟩
            exact unopened (List.prefix_append ['/', '*'] line).isInfix

/-- A line that comments can hold has no marks. -/
theorem IsContent.isChain (content : IsContent line) : line.IsChain Lexer.Apart :=
  isChain_of_unmarked content.unopened content.unclosed

/-- The asterisk before such a line makes no mark with it, since a blank stands between them. -/
theorem IsBlockLine.isChain (content : IsContent line) (asLine : IsBlockLine line written) :
    written.IsChain Lexer.Apart := by
  have blank : Lexer.Neutral ' ' := ⟨by decide, by decide⟩
  obtain ⟨indent, indented, rfl | ⟨-, rfl⟩⟩ := asLine
  · apply Lexer.isChain_neutral_append indented.neutral
    exact List.isChain_cons_cons.2
      ⟨blank.apart_right '*', Lexer.isChain_neutral_cons blank content.isChain⟩
  · exact Lexer.isChain_neutral_append indented.neutral (List.isChain_singleton '*')

/-- A line of a longer comment holds no end of a line. -/
theorem IsBlockLine.notMem (content : IsContent line) (asLine : IsBlockLine line written) :
    '\n' ∉ written ∧ '\r' ∉ written := by
  obtain ⟨indent, indented, rfl | ⟨-, rfl⟩⟩ := asLine
  · simp [indented.feedless, indented.returnless, content.feedless, content.returnless]
  · simp [indented.feedless, indented.returnless]

/-- The lines of a longer comment hold lines that comments can hold. -/
theorem exists_content {texts : List (List Char)} (content : ∀ line ∈ lines, IsContent line)
    (asLines : List.Forall₂ IsBlockLine lines texts) :
    ∀ text ∈ texts, ∃ line, IsContent line ∧ IsBlockLine line text := by
  induction asLines with
  | nil =>
      intro text absent
      cases absent
  | cons asLine _ ih =>
      obtain ⟨plain, later⟩ := List.forall_mem_cons.1 content
      exact List.forall_mem_cons.2 ⟨⟨_, plain, asLine⟩, ih later⟩

/-- What stands between the marks of a longer comment is read to its end. -/
theorem readAs_blockComment {placement : Lexer.Placement} {closing : List Char}
    {texts : List (List Char)} (content : ∀ line ∈ lines, IsContent line)
    (indented : IsIndent indent) (closed : IsIndent closing)
    (asLines : List.Forall₂ IsBlockLine lines texts) :
    Lexer.ReadAs
      (indent ++ (Lexer.blockMark placement ++
        '\n' :: (texts.flatMap (· ++ ['\n']) ++ closing) ++ ['*', '/']))
      (Lexer.documentationTokens placement ('\n' :: (texts.flatMap (· ++ ['\n']) ++ closing))) := by
  have each := exists_content content asLines
  have feed : Lexer.Neutral '\n' := ⟨by decide, by decide⟩
  refine indented.readAs.append (Lexer.readAs_blockComment placement ?_ ?_)
  · intro inside
    rcases List.mem_append.1 inside with inside | inside
    · obtain ⟨text, member, inside⟩ := List.mem_flatMap.1 inside
      obtain ⟨line, plain, asLine⟩ := each text member
      rcases List.mem_append.1 inside with inside | inside
      · exact (asLine.notMem plain).2 inside
      · exact absurd (List.mem_singleton.1 inside) (by decide)
    · exact closed.returnless inside
  · rw [List.cons_append, List.append_assoc]
    apply Lexer.isChain_neutral_cons feed
    apply Lexer.isChain_lines
    · intro text member
      obtain ⟨line, plain, asLine⟩ := each text member
      exact asLine.isChain plain
    · exact Lexer.isChain_neutral_append closed.neutral (List.isChain_singleton '*')

/-! ### Documentation of what was written

From the texts of the comments the lines come back without the blanks at their ends. In a longer comment
the asterisk is taken away first, and what its first and last line leave is empty. -/

/-- The blank that was put before a line is taken away again. -/
theorem singleLine_padded (line : List Char) : singleLine (Lexer.padded line) = trimEnd line := by
  cases line with
  | nil => rfl
  | cons c line => rfl

theorem IsIndent.trimStart_append (indented : IsIndent indent) (rest : List Char) :
    trimStart (indent ++ rest) = trimStart rest := by
  have gone : indent.dropWhile isBlank = [] := List.dropWhile_eq_nil_iff.2 indented.blank
  rw [trimStart, List.dropWhile_append, gone]
  rfl

/-- What is left of a line of a longer comment is the line. -/
theorem IsBlockLine.trimEnd_dropDecoration (asLine : IsBlockLine line written) :
    trimEnd (dropDecoration written) = trimEnd line := by
  obtain ⟨indent, indented, rfl | ⟨rfl, rfl⟩⟩ := asLine
  · rw [dropDecoration, indented.trimStart_append]
    rfl
  · rw [dropDecoration, indented.trimStart_append]
    rfl

/-- The lines of a longer comment: an empty one after its beginning, the lines themselves, and maybe
    one of the blanks before its end. -/
theorem blockLines_body {closing : List Char} {texts : List (List Char)}
    (content : ∀ line ∈ lines, IsContent line) (closed : IsIndent closing)
    (asLines : List.Forall₂ IsBlockLine lines texts) :
    ∃ pads, (∀ pad ∈ pads, pad = []) ∧
      blockLines ('\n' :: (texts.flatMap (· ++ ['\n']) ++ closing)) =
        [] :: (lines.map trimEnd ++ pads) := by
  have first (rest : List Char) : blockLines ('\n' :: rest) = [] :: blockLines rest := by
    rw [blockLines, ← List.nil_append ('\n' :: rest), Text.lines_line List.not_mem_nil,
      List.map_cons]
    rfl
  rw [first]
  -- The first line feed ends the line of the opening mark; the induction is on the lines after it.
  suffices rest : ∃ pads, (∀ pad ∈ pads, pad = []) ∧
      blockLines (texts.flatMap (· ++ ['\n']) ++ closing) = lines.map trimEnd ++ pads by
    obtain ⟨pads, empty, parts⟩ := rest
    exact ⟨pads, empty, by rw [parts]⟩
  induction asLines with
  | nil =>
      have blank : trimStart closing = [] := List.dropWhile_eq_nil_iff.2 closed.blank
      have empty : trimEnd (dropDecoration closing) = [] := by
        rw [dropDecoration, blank]
        rfl
      -- What stands before the closing mark is a line of blanks, or no line if it is empty.
      refine ⟨blockLines closing, ?_, rfl⟩
      rw [blockLines, Text.lines_of_notMem closed.feedless]
      split
      · exact fun pad absent => by cases absent
      · exact List.forall_mem_singleton.2 empty
  | @cons line text lines texts asLine _ ih =>
      obtain ⟨plain, later⟩ := List.forall_mem_cons.1 content
      obtain ⟨pads, empty, parts⟩ := ih later
      obtain ⟨feedless, returnless⟩ := asLine.notMem plain
      refine ⟨pads, empty, ?_⟩
      rw [List.flatMap_cons, List.append_assoc, List.append_assoc, List.singleton_append, blockLines,
        Text.lines_line feedless, List.map_cons, ← blockLines, parts,
        Text.dropReturn_of_notMem returnless, asLine.trimEnd_dropDecoration]
      rfl

end Reading

/-- The attributes of documentation texts. -/
def documentationAttributes (texts : List (List Char)) : List Attribute :=
  texts.map fun text => documentationAttribute (String.ofList text)

/-- The documentation texts of these attributes are the texts. -/
theorem textsOf_documentationAttributes (texts : List (List Char)) :
    textsOf (documentationAttributes texts) = texts := by
  induction texts with
  | nil => rfl
  | cons text texts ih =>
      have taken : (documentationAttribute (String.ofList text)).documentation? =
          some (String.ofList text) := rfl
      rw [documentationAttributes, List.map_cons, textsOf, List.filterMap_cons_some taken,
        List.map_cons, ← textsOf, ← documentationAttributes, ih, String.toList_ofList]

/-- Lines in comments of their own are documentation lines without the blanks at their ends. -/
theorem docLines_lines {lines : List (List Char)} (content : ∀ line ∈ lines, IsContent line) :
    docLines (documentationAttributes (lines.map Lexer.padded)) =
      (lines.map trimEnd).map String.ofList := by
  have gather (gathered : List (List Char)) :
      (lines.map Lexer.padded).foldl addText gathered = gathered ++ lines.map trimEnd := by
    induction lines generalizing gathered with
    | nil => exact (List.append_nil gathered).symm
    | cons line lines ih =>
        obtain ⟨plain, later⟩ := List.forall_mem_cons.1 content
        have single : addText gathered (Lexer.padded line) = gathered ++ [trimEnd line] := by
          rw [addText, singleLine_padded, if_neg]
          intro inside
          exact plain.feedless (Lexer.mem_padded (by decide) (List.contains_iff_mem.1 inside))
        rw [List.map_cons, List.foldl_cons, single, ih later, List.map_cons, List.append_assoc]
        rfl
  rw [docLines_eq, textsOf_documentationAttributes, gather, List.nil_append]

/-- Documentation with the empty lines at its end, or without. -/
theorem readsAs_dropEmptyEnd (lines : List (List Char)) :
    (⟨(dropEmptyEnd lines).map String.ofList⟩ : Documentation).ReadsAs
      ⟨lines.map String.ofList⟩ := by
  have none : ∀ line ∈ ([] : List String), line = "" := fun line absent => by cases absent
  have dropped : ∀ line ∈ (lines.map String.ofList).rtakeWhile String.isEmpty, line = "" :=
    fun line member => String.isEmpty_iff.1 (List.mem_rtakeWhile_imp member)
  have alike := Documentation.readsAs_padded
    ((lines.map String.ofList).rdropWhile String.isEmpty) none dropped
  rw [List.nil_append, List.rdropWhile_append_rtakeWhile, ← map_dropEmptyEnd] at alike
  exact alike.symm

/-- Both styles give the same documentation, up to empty lines around it. -/
theorem readsAs_of_styles {lines texts : List (List Char)} {closing : List Char}
    (content : ∀ line ∈ lines, IsContent line) (closed : IsIndent closing)
    (asLines : List.Forall₂ IsBlockLine lines texts) :
    (documentation (documentationAttributes (lines.map Lexer.padded))).ReadsAs
      (documentation (documentationAttributes
        ['\n' :: (texts.flatMap (· ++ ['\n']) ++ closing)])) := by
  obtain ⟨pads, empty, body⟩ := blockLines_body content closed asLines
  have long : ('\n' :: (texts.flatMap (· ++ ['\n']) ++ closing)).contains '\n' = true := by simp
  have first : ∀ pad ∈ [""], pad = "" := List.forall_mem_singleton.2 rfl
  have last : ∀ pad ∈ pads.map String.ofList, pad = "" := by
    intro pad member
    obtain ⟨source, listed, rfl⟩ := List.mem_map.1 member
    rw [empty source listed, String.ofList_nil]
  have alike := Documentation.readsAs_padded ((lines.map trimEnd).map String.ofList) first last
  rw [documentation, documentation, docLines_lines content, docLines_eq,
    textsOf_documentationAttributes, List.foldl_cons, List.foldl_nil, addText, if_pos long,
    List.nil_append, body]
  apply Documentation.ReadsAs.symm
  apply (readsAs_dropEmptyEnd _).trans
  rw [List.map_cons, List.map_append]
  exact alike

/-! ### Both styles

Both kinds of tokens are read as attributes, and these give the same lines up to empty ones around them.
-/

/-- In front of any text, a source text of comments gives attributes, and the tokens of that text give
    what they would give alone. -/
def DocumentsAs (placement : Lexer.Placement) (source : List Char) (attributes : List Attribute) :
    Prop :=
  ∃ tokens, Lexer.ReadAs source tokens ∧ ∀ inner more,
    (Grammar.attributesAt inner placement).run (tokens ++ more) =
      ((Grammar.attributesAt inner placement).run more).map fun found =>
        (attributes ++ found.1, found.2)

/-- Texts of documentation are read back from their tokens. -/
theorem run_documentationTokens (inner : Inner) (placement : Lexer.Placement)
    (texts : List (List Char)) (more : List Token) :
    (Grammar.attributesAt inner placement).run
        (texts.flatMap (Lexer.documentationTokens placement) ++ more) =
      ((Grammar.attributesAt inner placement).run more).map fun found =>
        (documentationAttributes texts ++ found.1, found.2) := by
  induction texts with
  | nil => exact Option.map_id'.symm
  | cons text texts ih =>
      rw [List.flatMap_cons, List.append_assoc, Grammar.run_attributesAt, ih, Option.map_map]
      rfl

/-- Two source texts of comments, with any other attributes around that are no documentation, read
    alike: the free text, the component, the description of the document and the accepted directives and
    bindings are the same. -/
def SourcesReadAlike (placement : Lexer.Placement) (source other : List Char) : Prop :=
  ∃ attributes others, DocumentsAs placement source attributes ∧
    DocumentsAs placement other others ∧
    ∀ before after, textsOf before = [] → textsOf after = [] →
      let docs := documentation (before ++ attributes ++ after)
      let other := documentation (before ++ others ++ after)
      docs.ReadsAs other ∧ docs.componentId? = other.componentId? ∧
        Info.derive? docs = Info.derive? other

/-- The same lines in comments of both styles read alike. -/
theorem comment_styles_read_alike {placement : Lexer.Placement} {lines : List (List Char)}
    {single block : List Char} (content : ∀ line ∈ lines, IsContent line)
    (asLines : AreLineComments placement lines single)
    (asBlock : IsBlockComment placement lines block) :
    SourcesReadAlike placement single block := by
  obtain ⟨indent, texts, closing, indented, closed, each, rfl⟩ := asBlock
  refine ⟨documentationAttributes (lines.map Lexer.padded),
    documentationAttributes ['\n' :: (texts.flatMap (· ++ ['\n']) ++ closing)],
    ⟨_, readAs_lineComments content asLines, ?_⟩,
    ⟨_, readAs_blockComment content indented closed each, ?_⟩, ?_⟩
  · intro inner more
    have read := run_documentationTokens inner placement (lines.map Lexer.padded) more
    rwa [List.flatMap_map] at read
  · intro inner more
    have read := run_documentationTokens inner placement
      ['\n' :: (texts.flatMap (· ++ ['\n']) ++ closing)] more
    rwa [List.flatMap_singleton] at read
  · intro before after plain clean docs other
    have alone (attributes : List Attribute) :
        documentation (before ++ attributes ++ after) = documentation attributes := by
      rw [documentation, documentation, docLines_eq, docLines_eq, textsOf_append, textsOf_append,
        plain, clean, List.nil_append, List.append_nil]
    have first : docs = _ := alone _
    have second : other = _ := alone _
    have alike : docs.ReadsAs other := by
      rw [first, second]
      exact readsAs_of_styles content closed each
    exact ⟨alike, alike.componentId?_eq, alike.derive?_eq⟩

/-- Lines that begin with an asterisk or with blanks, that are empty or blank, and a directive. -/
def sampleLines : List (List Char) :=
  ["Lists items.".toList, [], "* one".toList, "   two".toList, "openapi:tag items".toList, [' ']]

theorem comment_styles_read_alike_sample :
    (∀ line ∈ sampleLines, IsContent line) ∧
      SourcesReadAlike .inner
        ("//! Lists items.\n//!\n  //! * one\n//!    two\n//! openapi:tag items\n//!  \n").toList
        (" /*!\n * Lists items.\n*\n  * * one\n *    two\n * openapi:tag items\n*  \n */").toList := by
  have content : ∀ line ∈ sampleLines, IsContent line := by decide
  have plain : IsIndent [] := by decide
  have blank : IsIndent [' '] := by decide
  have wide : IsIndent [' ', ' '] := by decide
  refine ⟨content, comment_styles_read_alike content
    ⟨["//! Lists items.".toList, "//!".toList, "  //! * one".toList, "//!    two".toList,
      "//! openapi:tag items".toList, "//!  ".toList], ?_, by decide⟩
    ⟨[' '], [" * Lists items.".toList, "*".toList, "  * * one".toList, " *    two".toList,
      " * openapi:tag items".toList, "*  ".toList], [' '], blank, blank, ?_, by decide⟩⟩
  · exact .cons ⟨_, plain, rfl⟩ (.cons ⟨_, plain, rfl⟩ (.cons ⟨_, wide, rfl⟩ (.cons ⟨_, plain, rfl⟩
      (.cons ⟨_, plain, rfl⟩ (.cons ⟨_, plain, rfl⟩ .nil)))))
  · exact .cons ⟨_, blank, .inl rfl⟩ (.cons ⟨_, plain, .inr ⟨rfl, rfl⟩⟩ (.cons ⟨_, wide, .inl rfl⟩
      (.cons ⟨_, blank, .inl rfl⟩ (.cons ⟨_, blank, .inl rfl⟩ (.cons ⟨_, plain, .inl rfl⟩ .nil)))))

end Source

end SwaggerDocs
