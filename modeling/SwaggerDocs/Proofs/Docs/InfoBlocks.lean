/-
Module: SwaggerDocs.Proofs.Docs.InfoBlocks
Purpose: The info block that a documentation block describes. It exists if a line is an info directive,
  and has the version of the last one. The title is the first line of the free text without its marker,
  and the description is the rest. The marker is looked for in the whole text and the title and the
  description are trimmed without a look at what is left; that the marker ends on the first line, that
  some title remains, and that the description is not blank follow from the form of the text.
Main exports: getLast?_filterMap_eq_some_iff, Info.Marked, Info.Unmarked, splitLine_withoutPackage,
  Info.Describes, trim_others, describes_of_derive?, Info.derived_and_last_file_wins
-/
import SwaggerDocs.Generation.Build
import SwaggerDocs.Proofs.Docs.Prose

namespace SwaggerDocs

open Text

/-- The last result of a list comes from the last item that has one. -/
theorem getLast?_filterMap_eq_some_iff {α β : Type} {f : α → Option β} {items : List α}
    {result : β} :
    (items.filterMap f).getLast? = some result ↔
      ∃ before item after, items = before ++ item :: after ∧ f item = some result ∧
        ∀ later ∈ after, f later = none := by
  rw [List.getLast?_eq_some_iff]
  constructor
  · rintro ⟨results, made⟩
    obtain ⟨before, rest, rfl, _, last⟩ := List.filterMap_eq_append_iff.1 made
    obtain ⟨skipped, item, after, rfl, _, found, without⟩ := List.filterMap_eq_cons_iff.1 last
    exact ⟨before ++ skipped, item, after, by simp, found, List.filterMap_eq_nil_iff.1 without⟩
  · rintro ⟨before, item, after, rfl, found, without⟩
    exact ⟨before.filterMap f, by simp [found, List.filterMap_eq_nil_iff.2 without]⟩

namespace Info

/-! ### The marker

The marker is looked for at the start of the whole text. It holds no line feed, so it ends on the first
line, and the other lines are left as they are. -/

/-- A text starts with the word `Package` and a name, with a blank after each; the rest follows. -/
def Marked (text rest : List Char) : Prop :=
  ∃ name, name ≠ [] ∧ (∀ c ∈ name, isBlank c = false) ∧
    text = "Package ".toList ++ (name ++ ' ' :: rest)

/-- What is left of a text without its marker, or all of it if it has none. -/
def Unmarked (text rest : List Char) : Prop :=
  Marked text rest ∨ (rest = text ∧ ∀ other, ¬Marked text other)

section Marker

variable {text line rest more : List Char}

/-- The marker is found as it is looked for: the word, then a name, then a blank. -/
theorem marked_iff :
    Marked text rest ↔
      ∃ name, (stripStart? "Package ".toList text).bind nonBlank? = some (name, ' ' :: rest) := by
  simp only [Marked, Option.bind_eq_some_iff, stripStart?_eq_some_iff, nonBlank?,
    run?_eq_some_iff, endsRun_cons, Bool.not_eq_true']
  constructor
  · rintro ⟨name, nonempty, solid, rfl⟩
    exact ⟨name, _, rfl, rfl, nonempty, solid, by decide⟩
  · rintro ⟨name, _, rfl, rfl, nonempty, solid, _⟩
    exact ⟨name, nonempty, solid, rfl⟩

theorem withoutPackage_of_marked (marked : Marked text rest) : withoutPackage text = rest := by
  obtain ⟨name, read⟩ := marked_iff.1 marked
  rw [withoutPackage, read]
  rfl

/-- A text without marker is left as it is. -/
theorem withoutPackage_of_plain (plain : ∀ rest, ¬Marked text rest) : withoutPackage text = text := by
  rw [withoutPackage]
  split
  · rename_i name rest read
    exact absurd (marked_iff.2 ⟨name, read⟩) (plain rest)
  · rfl

/-- What is left of a text is the text without its marker. -/
theorem unmarked_withoutPackage (text : List Char) : Unmarked text (withoutPackage text) := by
  by_cases marked : ∃ rest, Marked text rest
  · obtain ⟨rest, marked⟩ := marked
    rw [withoutPackage_of_marked marked]
    exact Or.inl marked
  · have plain := not_exists.1 marked
    exact Or.inr ⟨withoutPackage_of_plain plain, plain⟩

/-- A marker has no line feed, so it does not reach beyond the first line. -/
theorem marked_append_line (whole : '\n' ∉ line) :
    Marked (line ++ '\n' :: more) rest ↔ ∃ kept, Marked line kept ∧ rest = kept ++ '\n' :: more := by
  constructor
  · rintro ⟨name, nonempty, solid, same⟩
    have unbroken : '\n' ∉ "Package ".toList ++ name ++ [' '] := by
      simp only [List.mem_append, not_or]
      refine ⟨⟨by decide, fun member => ?_⟩, by decide⟩
      exact absurd (solid _ member) (by decide)
    have parts : line ++ '\n' :: more = ("Package ".toList ++ name ++ [' ']) ++ rest := by
      simpa using same
    rcases List.append_eq_append_iff.1 parts with ⟨excess, marker, left⟩ | ⟨kept, rfl, rfl⟩
    · -- The marker would go on after the line, with its line feed.
      cases excess with
      | nil =>
          rw [List.append_nil] at marker
          exact ⟨[], ⟨name, nonempty, solid, by simp [← marker]⟩, left.symm⟩
      | cons c excess =>
          obtain ⟨rfl, _⟩ := List.cons.inj left
          exact absurd (marker ▸ List.mem_append_right _ List.mem_cons_self) unbroken
    · exact ⟨kept, ⟨name, nonempty, solid, by simp⟩, rfl⟩
  · rintro ⟨kept, ⟨name, nonempty, solid, rfl⟩, rfl⟩
    exact ⟨name, nonempty, solid, by simp⟩

/-- Without its marker, a text loses something of its first line only. -/
theorem withoutPackage_append_line (whole : '\n' ∉ line) :
    withoutPackage (line ++ '\n' :: more) = withoutPackage line ++ '\n' :: more := by
  rcases unmarked_withoutPackage line with marked | ⟨same, plain⟩
  · exact withoutPackage_of_marked ((marked_append_line whole).2 ⟨_, marked, rfl⟩)
  · rw [same]
    apply withoutPackage_of_plain
    intro rest marked
    obtain ⟨kept, marked, _⟩ := (marked_append_line whole).1 marked
    exact plain kept marked

theorem withoutPackage_suffix (text : List Char) : withoutPackage text <:+ text := by
  have unmarked := unmarked_withoutPackage text
  generalize withoutPackage text = rest at unmarked ⊢
  rcases unmarked with ⟨name, _, _, rfl⟩ | ⟨rfl, _⟩
  · exact ⟨"Package ".toList ++ name ++ [' '], by simp⟩
  · exact List.suffix_refl _

/-- A line that does not end in a blank has something left without its marker. -/
theorem endsSolid_withoutPackage (ends : EndsSolid text) : EndsSolid (withoutPackage text) := by
  have unmarked := unmarked_withoutPackage text
  generalize withoutPackage text = rest at unmarked ⊢
  rcases unmarked with ⟨name, _, _, rfl⟩ | ⟨rfl, _⟩
  · obtain ⟨c, last, solid⟩ := ends
    refine ⟨c, ?_, solid⟩
    rw [List.getLast?_append, List.getLast?_append, List.getLast?_cons] at last
    cases final : rest.getLast? with
    | none =>
        rw [final] at last
        cases last
        cases solid
    | some d =>
        rw [final] at last
        exact last
  · exact ends

end Marker

/-! ### First line and rest

The text is cut after the marker is gone. The cut still falls at the end of the first line of the text.
-/

/-- The characters of a line are not line feeds, as the cut tests them. -/
theorem ne_of_whole {line : List Char} (whole : '\n' ∉ line) : ∀ c ∈ line, (c != '\n') = true := by
  intro c member
  exact bne_iff_ne.2 fun same => whole (same ▸ member)

/-- A text of one line has no other lines. -/
theorem splitLine_line {line : List Char} (whole : '\n' ∉ line) : splitLine line = (line, []) := by
  have all := ne_of_whole whole
  rw [splitLine, List.takeWhile_eq_self_iff.2 all, List.dropWhile_eq_nil_iff.2 all]
  rfl

theorem splitLine_append_line {line : List Char} (whole : '\n' ∉ line) (more : List Char) :
    splitLine (line ++ '\n' :: more) = (line, more) := by
  have all := ne_of_whole whole
  rw [splitLine, List.takeWhile_append_of_pos all, List.dropWhile_append_of_pos all]
  simp

/-- Without its marker, a text is cut into its first line without marker and its other lines. -/
theorem splitLine_withoutPackage {first : List Char} (whole : '\n' ∉ first)
    (rest : List (List Char)) :
    splitLine (withoutPackage (['\n'].intercalate (first :: rest))) =
      (withoutPackage first, ['\n'].intercalate rest) := by
  have left : '\n' ∉ withoutPackage first := fun broken =>
    whole ((withoutPackage_suffix first).subset broken)
  cases rest with
  | nil =>
      rw [List.intercalate_singleton]
      exact splitLine_line left
  | cons next others =>
      rw [List.intercalate_cons_cons, List.append_assoc, List.singleton_append,
        withoutPackage_append_line whole]
      exact splitLine_append_line left _

/-! ### The info block of a documentation block

The text is made of lines of prose, which neither start nor end with an empty line. So a title is left
of the first line, and a description if there are more lines. -/

/-- An info block has the version of the last info directive of a documentation block. If the block has
    no text, the title says so and there is no description. Otherwise the title is the first line
    without its marker, trimmed, and not empty. There is a description if the text has more lines; it is
    made of these, trimmed, and its lines after the first are the lines of the text. -/
structure Describes (info : Info) (docs : Documentation) : Prop where
  version : ∃ before line after, docs.lines = before ++ line :: after ∧
    Directive.parseSpec? line = some (.info info.version) ∧
      ∀ later ∈ after, Directive.parseSpec? later = none
  untitled : docs.text = "" → info.title = "not found" ∧ info.description = none
  written : docs.text ≠ "" → ∃ first rest, Text.lines docs.text.toList = first :: rest ∧
    (info.title ≠ "" ∧ ∃ title, Unmarked first title ∧ info.title = String.ofList (trim title)) ∧
    (info.description = none ↔ rest = []) ∧
    (rest ≠ [] → ∃ description next others,
      info.description = some description ∧
        description = String.ofList (trim (['\n'].intercalate rest)) ∧
          rest.dropWhile List.isEmpty = next :: others ∧
            Text.lines description.toList = trimStart next :: others)

section Derived

variable {docs : Documentation} {info : Info} {first : List Char} {rest : List (List Char)}

/-- There is an info block if some line is an info directive. -/
theorem isSome_derive? :
    (derive? docs).isSome = true ↔ ∃ line ∈ docs.lines, (Directive.parseSpec? line).isSome = true := by
  rw [derive?, Option.isSome_map, Documentation.version?, List.getLast?_isSome, Ne,
    List.filterMap_eq_nil_iff]
  simp only [Option.map_eq_none_iff, not_forall, exists_prop, ← Option.isSome_iff_ne_none]

/-- The version is that of the last info directive. -/
theorem version?_eq_some_iff {version : String} :
    docs.version? = some version ↔
      ∃ before line after, docs.lines = before ++ line :: after ∧
        Directive.parseSpec? line = some (.info version) ∧
          ∀ later ∈ after, Directive.parseSpec? later = none := by
  rw [Documentation.version?, getLast?_filterMap_eq_some_iff]
  constructor
  · rintro ⟨before, line, after, lines, named, later⟩
    obtain ⟨⟨read⟩, parsed, rfl⟩ := Option.map_eq_some_iff.1 named
    exact ⟨before, line, after, lines, parsed, fun other member =>
      Option.map_eq_none_iff.1 (later other member)⟩
  · rintro ⟨before, line, after, lines, parsed, later⟩
    refine ⟨before, line, after, lines, ?_, fun other member =>
      Option.map_eq_none_iff.2 (later other member)⟩
    rw [parsed]
    rfl

/-- Without text there is a title that says so, and no description. -/
theorem ofText_empty (version : String) : ofText version "" = ⟨missingTitle, none, version⟩ := rfl

/-- The info block of a text with lines is made of its first line and of the other lines. -/
theorem ofText_of_lines (version : String) (whole : '\n' ∉ first) (rest : List (List Char)) :
    ofText version (String.ofList (['\n'].intercalate (first :: rest))) =
      { title := if (trim (withoutPackage first)).isEmpty then missingTitle
          else String.ofList (trim (withoutPackage first))
        description := if (trim (['\n'].intercalate rest)).isEmpty then none
          else some (String.ofList (trim (['\n'].intercalate rest)))
        version := version } := by
  rw [ofText, String.toList_ofList, splitLine_withoutPackage whole]

/-- What is left of the other lines of a text after trimming is not blank, and its lines are those of
    the text from the first one with text on, without the blanks before it. -/
theorem trim_others (prose : ProseLines (first :: rest)) (more : rest ≠ []) :
    trim (['\n'].intercalate rest) ≠ [] ∧ ∃ next others,
      rest.dropWhile List.isEmpty = next :: others ∧
        Text.lines (trim (['\n'].intercalate rest)) = trimStart next :: others := by
  obtain ⟨next, others, tail, parts⟩ := prose.exists_text more
  have trimmed : trim (['\n'].intercalate rest) = trim (['\n'].intercalate (next :: others)) := by
    rcases parts with rfl | rfl
    · rfl
    · exact trim_intercalate_empty next others
  have dropped : rest.dropWhile List.isEmpty = next :: others := by
    have kept : (next :: others).dropWhile List.isEmpty = next :: others :=
      List.dropWhile_cons_of_neg fun empty => tail.first_ne_nil (List.isEmpty_iff.1 empty)
    rcases parts with rfl | rfl
    · exact kept
    · exact kept
  rw [trimmed]
  refine ⟨tail.endsSolid_intercalate.trim_ne_nil, next, others, dropped, ?_⟩
  rw [trim_intercalate tail.isBlankLine_first tail.endsSolid_intercalate]
  exact tail.trimStart.lines_intercalate

/-- An info block describes the documentation block that it is derived from. -/
theorem describes_of_derive? (single : docs.SingleLines) (derived : derive? docs = some info) :
    info.Describes docs := by
  obtain ⟨version, last, rfl⟩ := Option.map_eq_some_iff.1 derived
  refine ⟨version?_eq_some_iff.1 last, ?_, ?_⟩
  · intro empty
    rw [empty, ofText_empty]
    exact ⟨rfl, rfl⟩
  · intro written
    have prose := single.proseLines
    have joined : docs.text = String.ofList (['\n'].intercalate docs.textLines) := rfl
    rw [single.lines_text, joined]
    rw [joined] at written
    generalize docs.textLines = lines at prose written ⊢
    cases lines with
    | nil => exact absurd rfl written
    | cons first rest =>
        -- The first line of prose ends in a character that stays when the marker goes.
        have title : trim (withoutPackage first) ≠ [] :=
          (endsSolid_withoutPackage prose.endsSolid_first).trim_ne_nil
        have titled : (trim (withoutPackage first)).isEmpty = false := by simpa using title
        rw [ofText_of_lines version (prose.single first List.mem_cons_self)]
        refine ⟨first, rest, rfl, ⟨?_, withoutPackage first, unmarked_withoutPackage first, ?_⟩, ?_, ?_⟩
        · simpa [titled] using title
        · simp [titled]
        · by_cases more : rest = []
          · subst more
            exact iff_of_true rfl rfl
          · have left := (trim_others prose more).1
            simp [more, left]
        · intro more
          obtain ⟨left, next, others, dropped, lines⟩ := trim_others prose more
          refine ⟨String.ofList (trim (['\n'].intercalate rest)), next, others, ?_, rfl, dropped, ?_⟩
          · simp [left]
          · rwa [String.toList_ofList]

end Derived

/-! ### The info block of a document

Of several files with info blocks the last one decides, just as the last directive does within a
block. -/

/-- A block has an info block exactly if a line is an info directive, and the info block describes it. A
    document has the info block of the last file that has one. -/
theorem derived_and_last_file_wins :
    (∀ docs : Documentation, docs.SingleLines →
      ((derive? docs).isSome = true ↔
        ∃ line ∈ docs.lines, (Directive.parseSpec? line).isSome = true) ∧
      ∀ info, derive? docs = some info → info.Describes docs) ∧
    ∀ (graph : Declarations) (policy : RegistrationPolicy) (files : Generation.ExampleFiles)
      (info : Info), (Built.ofDeclarations policy files graph).document.info = some info ↔
        ∃ before file after, graph.files = before ++ file :: after ∧
          derive? file.docs = some info ∧ ∀ later ∈ after, derive? later.docs = none :=
  ⟨fun _ single => ⟨isSome_derive?, fun _ => describes_of_derive? single⟩,
    fun _ _ _ _ => getLast?_filterMap_eq_some_iff⟩

/-- A block with a marker, two paragraphs after an indented line, and two info directives. -/
def serviceLines : Documentation := ⟨["Package api  is the entity service", " ", "", "  It manages entities.",
  "openapi:info 0.9.0", "", "Entities are kept.", "openapi:info 1.0.0", ""]⟩

/-- The info block of the block. -/
def serviceInfo : Info where
  title := "is the entity service"
  description := some "It manages entities.\n\nEntities are kept."
  version := "1.0.0"

/-- The file of the block. -/
def serviceFile : FileDeclarations := ⟨⟨"lib.rs"⟩, serviceLines, [], []⟩

/-- A file without an info directive. -/
def plainFile : FileDeclarations := ⟨⟨"model.rs"⟩, ⟨["Package model holds entities"]⟩, [], []⟩

/-- The block has the info block, and so has the document of its file and a file without one. -/
theorem derived_and_last_file_wins_service :
    (serviceLines.SingleLines ∧ derive? serviceLines = some serviceInfo ∧
      derive? plainFile.docs = none) ∧
    serviceInfo.Describes serviceLines ∧
      (Built.ofDeclarations .firstWins (fun _ => none) ⟨[serviceFile, plainFile]⟩).document.info =
        some serviceInfo := by
  have single : serviceLines.SingleLines := by decide
  have derived : derive? serviceLines = some serviceInfo := by decide +kernel
  have plain : derive? plainFile.docs = none := by decide +kernel
  obtain ⟨ofBlock, ofFiles⟩ := derived_and_last_file_wins
  refine ⟨⟨single, derived, plain⟩, (ofBlock serviceLines single).2 serviceInfo derived, ?_⟩
  exact (ofFiles _ _ _ _).2 ⟨[], serviceFile, [plainFile], rfl, derived, by simpa using plain⟩

end Info

end SwaggerDocs
