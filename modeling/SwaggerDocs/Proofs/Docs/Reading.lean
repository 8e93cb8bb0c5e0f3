/-
Module: SwaggerDocs.Proofs.Docs.Reading
Purpose: The readers of directive lines accept exactly the lines that directives are written as, with
  any blanks around them. A written line has no blanks around it, so it is read as what was written, and
  no line is written for two directives.
Main exports: parseSpec?_eq_some_iff, parseSchema?_eq_some_iff, parseOperation?_eq_some_iff,
  parseBinding?_eq_some_iff, Reads, directives_read_as_written
-/
import SwaggerDocs.Proofs.Docs.Rules

namespace SwaggerDocs.Directive

open Text

/-! ### Lines

A reader trims the line and tries the rules of its family. Each of them accepts the lines of its own
members, and together they have all members. -/

section Lines

variable {line : String}

/-- The text of a line without the blanks around it. -/
def trimmed (line : String) : String := String.ofList (trim line.toList)

/-- The reader of info lines accepts the lines that stand for a version. -/
theorem parseSpec?_eq_some_iff {directive : SpecDirective} :
    parseSpec? line = some directive ↔ Renders directive (trimmed line) := info?_eq_some_iff

/-- A rule for a text of a schema accepts the two forms of its line. The line is trimmed, so the text
    does not end in a blank. -/
theorem schemaTextRule_iff {word text : String} {directive : SchemaDirective}
    (fits : Writable.Fits directive ↔ IsLineText text)
    (words : ∀ line, Writable.Words directive line ↔
      line = ["openapi:" ++ word, text] ∨ line = ["schema:" ++ word, text]) :
    schemaText? word (trim line.toList) = some text ↔ Renders directive (trimmed line) := by
  rw [schemaText?_eq_some_iff (getLast?_trim line.toList), Renders, fits]
  simp only [words, or_and_right, exists_or, exists_eq_left]
  rw [trimmed, ofList_eq_line_iff, ofList_eq_line_iff]

/-- The reader for types and fields accepts the lines that stand for a directive of theirs. -/
theorem parseSchema?_eq_some_iff {directive : SchemaDirective} :
    parseSchema? line = some directive ↔ Renders directive (trimmed line) := by
  rw [parseSchema?, firstOf_eq_some_iff schemaRules_start (by decide)]
  simp only [schemaRules, List.mem_cons, List.not_mem_nil, or_false, exists_eq_or_imp,
    exists_eq_left, component?_eq_some_iff, Option.map_eq_some_iff]
  constructor
  · rintro (⟨_, renders⟩ | ⟨text, read, rfl⟩ | ⟨text, read, rfl⟩ | ⟨text, read, rfl⟩)
    · exact renders
    · exact (schemaTextRule_iff Iff.rfl fun _ => Iff.rfl).1 read
    · exact (schemaTextRule_iff Iff.rfl fun _ => Iff.rfl).1 read
    · exact (schemaTextRule_iff Iff.rfl fun _ => Iff.rfl).1 read
  · intro renders
    rcases directive with id | text | text | text
    · exact Or.inl ⟨⟨id, rfl⟩, renders⟩
    · exact Or.inr (Or.inl ⟨text, (schemaTextRule_iff Iff.rfl fun _ => Iff.rfl).2 renders, rfl⟩)
    · exact Or.inr (Or.inr (Or.inl
        ⟨text, (schemaTextRule_iff Iff.rfl fun _ => Iff.rfl).2 renders, rfl⟩))
    · exact Or.inr (Or.inr (Or.inr
        ⟨text, (schemaTextRule_iff Iff.rfl fun _ => Iff.rfl).2 renders, rfl⟩))

/-- The reader for functions accepts the lines that stand for a directive of theirs. -/
theorem parseOperation?_eq_some_iff {directive : OperationDirective} :
    parseOperation? line = some directive ↔ Renders directive (trimmed line) := by
  rw [parseOperation?, firstOf_eq_some_iff operationRules_start (by decide)]
  simp only [operationRules, List.mem_cons, List.not_mem_nil, or_false, exists_eq_or_imp,
    exists_eq_left, parameter?_eq_some_iff, tag?_eq_some_iff, response?_eq_some_iff,
    responseContent?_eq_some_iff, responseHeader?_eq_some_iff, responseExample?_eq_some_iff,
    requestBody?_eq_some_iff, ← or_and_right]
  rw [trimmed, and_iff_right_iff_imp]
  intro _
  cases directive <;> simp

/-- The name of a method has no blank, in letters of either case. -/
theorem isToken_of_toLower {method : String} {known : HttpMethod}
    (same : method.toList.map Char.toLower = known.name.toList) : IsToken method := by
  have plain : IsToken known.name := by
    cases known <;> decide +kernel
  constructor
  · rintro rfl
    exact plain.1 (String.toList_eq_nil_iff.1 same.symm)
  · intro c member
    have lower : c.toLower ∈ known.name.toList := same ▸ List.mem_map_of_mem member
    by_contra blank
    have code := mem_blankCodes (by simpa using blank)
    -- The blank characters lie outside of the letters that have another case.
    have outside : ∀ code ∈ blankCodes, ¬ (65 ≤ code ∧ code ≤ 90) := by decide
    have unchanged : c.toLower = c := dif_neg (outside c.toNat code)
    rw [unchanged] at lower
    exact blank (plain.2 c lower)

/-- A method is known by its name in letters of either case. -/
theorem ofName?_eq_some_iff {method : String} {known : HttpMethod} :
    HttpMethod.ofName? method = some known ↔
      method.toList.map Char.toLower = known.name.toList := by
  constructor
  · intro found
    have same := List.find?_some found
    exact (of_decide_eq_true same).symm
  · intro same
    rw [HttpMethod.ofName?, same]
    cases known <;> decide +kernel

/-- A binding line has two tokens, for the path and the method. -/
theorem bindingArguments?_eq_some_iff {cs : List Char} {path method : String} :
    bindingArguments? cs = some (path, method) ↔
      IsToken path ∧ IsToken method ∧ cs = "openapi:operation".toList ++ spaced [path, method] := by
  simp only [bindingArguments?, Option.bind_eq_bind, Option.bind_eq_some_iff]
  constructor
  · rintro ⟨_, started, ⟨path', _⟩, placed, method', named, same⟩
    cases same
    obtain rfl := arguments?_eq_some_iff.1 started
    obtain ⟨token, rfl⟩ := nonBlankThen?_eq_some_iff.1 placed
    obtain ⟨word, rfl⟩ := lastNonBlank?_eq_some_iff.1 named
    exact ⟨token, word, by simp⟩
  · rintro ⟨token, word, rfl⟩
    exact ⟨_, arguments?_eq_some_iff.2 rfl, _, nonBlankThen?_eq_some_iff.2 ⟨token, rfl⟩, _,
      lastNonBlank?_eq_some_iff.2 ⟨word, by simp⟩, rfl⟩

/-- The reader of binding lines accepts the lines that stand for a slot. -/
theorem parseBinding?_eq_some_iff {binding : Binding} :
    parseBinding? line = some binding ↔ Renders binding (trimmed line) := by
  have bound : parseBinding? line = some binding ↔
      ∃ method, bindingArguments? (trim line.toList) = some (binding.path, method) ∧
        HttpMethod.ofName? method = some binding.method := by
    rw [parseBinding?, parseBinding]
    cases bindingArguments? (trim line.toList) with
    | none => simp
    | some arguments =>
        obtain ⟨path, method⟩ := arguments
        obtain ⟨other, known⟩ := binding
        cases named : HttpMethod.ofName? method with
        | none =>
            simp only [named]
            constructor
            · rintro ⟨⟩
            · rintro ⟨_, ⟨⟩, found⟩
              rw [named] at found
              cases found
        | some known' =>
            simp only [named]
            constructor
            · rintro ⟨⟩
              exact ⟨method, rfl, named⟩
            · rintro ⟨_, ⟨⟩, found⟩
              rw [named] at found
              cases found
              rfl
  rw [bound]
  simp only [bindingArguments?_eq_some_iff, ofName?_eq_some_iff]
  constructor
  · rintro ⟨method, ⟨token, _, written⟩, same⟩
    exact ⟨token, _, ⟨method, same, rfl⟩, ofList_eq_line_iff.2 written⟩
  · rintro ⟨token, _, ⟨method, same, rfl⟩, written⟩
    exact ⟨method, ⟨token, isToken_of_toLower same, ofList_eq_line_iff.1 written⟩, same⟩

end Lines

/-! ### Written lines

A written line starts with the word of its directive and ends with a solid part, so nothing is trimmed
off. For this the last part of each kind of line is looked at. -/

theorem IsToken.endsSolid {text : String} (token : IsToken text) : EndsSolid text.toList := by
  cases last : text.toList.getLast? with
  | none => exact absurd (String.toList_eq_nil_iff.1 (List.getLast?_eq_none_iff.1 last)) token.1
  | some c => exact ⟨c, last, token.2 c (List.mem_of_getLast? last)⟩

theorem IsWord.isToken {text : String} (word : IsWord text) : IsToken text :=
  ⟨word.1, fun c member => isBlank_of_isWordChar (word.2 c member)⟩

theorem isToken_display {key : ResponseKey} (valid : key.Valid) : IsToken key.display := by
  cases key with
  | default =>
      show IsToken "default"
      decide +kernel
  | status code =>
      obtain ⟨a, b, c, ha, hb, hc, written⟩ := ResponseKey.exists_digits_of_status valid
      have solid {d : Char} (digit : d.isDigit = true) : isBlank d = false := by
        by_contra blank
        have code := mem_blankCodes (by simpa using blank)
        have outside : ∀ code ∈ blankCodes, ¬ (48 ≤ code ∧ code ≤ 57) := by decide
        rw [Char.isDigit, Bool.and_eq_true, decide_eq_true_eq, decide_eq_true_eq] at digit
        exact outside d.toNat code ⟨digit.1, digit.2⟩
      rw [IsToken, ← String.toList_inj.ne, written]
      simp [solid ha, solid hb, solid hc]

/-- A type ends as its format or its name does. -/
theorem endsSolid_text {typed : TypedAs} (fits : typed.Fits) : EndsSolid typed.text.toList := by
  obtain ⟨name, format⟩ := typed
  obtain ⟨word, token⟩ := fits
  cases format with
  | none => exact IsToken.endsSolid word.isToken
  | some format =>
      obtain ⟨c, last, solid⟩ := IsToken.endsSolid (token format rfl)
      refine ⟨c, ?_, solid⟩
      rw [TypedAs.text, String.toList_append, List.getLast?_append, last]
      rfl

/-- A line ends as its last word does. -/
theorem endsSolid_line {word last : String} {words : List String}
    (ends : (word :: words).getLast? = some last) (solid : EndsSolid last.toList) :
    EndsSolid (word.toList ++ spaced words) := by
  induction words generalizing word with
  | nil =>
      cases ends
      rw [spaced_nil, List.append_nil]
      exact solid
  | cons next rest ih =>
      rw [List.getLast?_cons_cons] at ends
      obtain ⟨c, final, plain⟩ := ih ends
      refine ⟨c, ?_, plain⟩
      rw [spaced_cons, List.getLast?_append, List.getLast?_cons, final]
      rfl

/-- Nothing is trimmed off a line between two words that are not blank. -/
theorem trimmed_line {word last text : String} {words : List String}
    (written : text = " ".intercalate (word :: words))
    (starts : (word.toList.head?.any fun c => !isBlank c) = true)
    (ends : (word :: words).getLast? = some last) (solid : EndsSolid last.toList) :
    trimmed text = text := by
  obtain ⟨c, first, plain⟩ := (Option.any_eq_true _ _).1 starts
  obtain ⟨rest, chars⟩ := List.head?_eq_some_iff.1 first
  rw [trimmed, written, String.ofList_eq, toList_line]
  have finish := endsSolid_line ends solid
  rw [chars] at finish ⊢
  exact trim_eq_self (by simpa using plain) finish

/-- A description ends in its quote. -/
theorem endsSolid_describe {words : List String} {last : String}
    (ends : words.getLast? = some last) (solid : EndsSolid last.toList)
    (description : Option String) :
    ∃ final, (words ++ describe description).getLast? = some final ∧ EndsSolid final.toList := by
  cases description with
  | none =>
      refine ⟨last, ?_, solid⟩
      rw [describe, Option.map_none, Option.toList_none, List.append_nil, ends]
  | some text =>
      refine ⟨quoted text, ?_, '"', ?_, by decide⟩
      · rw [describe, Option.map_some, Option.toList_some, List.getLast?_concat]
      · rw [toList_quoted, Option.mem_def, ← List.cons_append, List.getLast?_concat]

/-- Nothing is trimmed off a line whose words end solid, with a description or without. -/
theorem trimmed_described {word last text : String} {words : List String}
    {description : Option String}
    (written : text = " ".intercalate ((word :: words) ++ describe description))
    (starts : (word.toList.head?.any fun c => !isBlank c) = true)
    (ends : (word :: words).getLast? = some last) (solid : EndsSolid last.toList) :
    trimmed text = text := by
  obtain ⟨final, ends, solid⟩ := endsSolid_describe ends solid description
  exact trimmed_line written starts ends solid

/-- A line for a version is trimmed as it is written. -/
theorem trimmed_of_spec {directive : SpecDirective} {text : String}
    (renders : Renders directive text) : trimmed text = text := by
  obtain ⟨version⟩ := directive
  obtain ⟨token, _, rfl, written⟩ := renders
  exact trimmed_line written (by decide) rfl (IsToken.endsSolid token)

/-- A line for a directive of types and fields is trimmed as it is written. -/
theorem trimmed_of_schema {directive : SchemaDirective} {text : String}
    (renders : Renders directive text) : trimmed text = text := by
  rcases directive with id | value | value | value
  · obtain ⟨word, _, rfl, written⟩ := renders
    exact trimmed_line written (by decide) rfl (IsToken.endsSolid word.isToken)
  · obtain ⟨⟨_, solid⟩, _, rfl | rfl, written⟩ := renders
    · exact trimmed_line written (by decide) rfl solid
    · exact trimmed_line written (by decide) rfl solid
  · obtain ⟨⟨_, solid⟩, _, rfl | rfl, written⟩ := renders
    · exact trimmed_line written (by decide) rfl solid
    · exact trimmed_line written (by decide) rfl solid
  · obtain ⟨⟨_, solid⟩, _, rfl | rfl, written⟩ := renders
    · exact trimmed_line written (by decide) rfl solid
    · exact trimmed_line written (by decide) rfl solid

/-- A line for a directive of functions is trimmed as it is written. -/
theorem trimmed_of_operation {directive : OperationDirective} {text : String}
    (renders : Renders directive text) : trimmed text = text := by
  cases directive with
  | parameter name location typed description =>
      obtain ⟨⟨_, _, fits, _⟩, _, rfl, written⟩ := renders
      exact trimmed_described written (by decide) rfl (endsSolid_text fits)
  | tag name =>
      obtain ⟨word, _, rfl, written⟩ := renders
      exact trimmed_line written (by decide) rfl (IsToken.endsSolid word.isToken)
  | response key description =>
      obtain ⟨⟨valid, _⟩, _, rfl, written⟩ := renders
      exact trimmed_described written (by decide) rfl (isToken_display valid).endsSolid
  | responseContent key mediaType schemaId =>
      obtain ⟨⟨_, _, word⟩, _, rfl, written⟩ := renders
      exact trimmed_line written (by decide) rfl (IsToken.endsSolid word.isToken)
  | responseHeader key name typed description =>
      obtain ⟨⟨_, _, fits, _⟩, _, rfl, written⟩ := renders
      exact trimmed_described written (by decide) rfl (endsSolid_text fits)
  | responseExample key mediaType file =>
      obtain ⟨⟨_, _, token⟩, _, rfl, written⟩ := renders
      exact trimmed_line written (by decide) rfl token.endsSolid
  | requestBody mediaType schemaId required description =>
      obtain ⟨⟨_, word, _⟩, _, ⟨flag, flagged, rfl⟩, written⟩ := renders
      cases required with
      | false =>
          cases flagged
          have token : IsToken "false" := by decide +kernel
          exact trimmed_described written (by decide) rfl token.endsSolid
      | true =>
          rcases flagged with rfl | rfl
          · have token : IsToken "true" := by decide +kernel
            exact trimmed_described written (by decide) rfl token.endsSolid
          · exact trimmed_described written (by decide) rfl word.isToken.endsSolid

/-- A line for a slot is trimmed as it is written. -/
theorem trimmed_of_binding {binding : Binding} {text : String}
    (renders : Renders binding text) : trimmed text = text := by
  obtain ⟨_, _, ⟨method, same, rfl⟩, written⟩ := renders
  exact trimmed_line written (by decide) rfl (isToken_of_toLower same).endsSolid

/-! ### Readers and written lines

What was said of each reader is put in one form. The other parts follow from the first: a reader is a
function, so no line stands for two members. -/

/-- A reader accepts exactly the lines of a family, up to blanks around them; each member that can be
    written has a line, comes back from each of its lines, and shares no line with another one. -/
structure Reads {α : Type} [Writable α] (parse : String → Option α) : Prop where
  accepts : ∀ line member, parse line = some member ↔ Renders member (trimmed line)
  writes : ∀ member : α, (∃ text, Renders member text) ↔ Writable.Fits member
  survives : ∀ (member : α) (text : String), Renders member text → parse text = some member
  separates : ∀ (member other : α) (text : String), Renders member text → Renders other text →
    member = other

/-- It is enough that a reader accepts the lines, that no line needs trimming, and that no member is
    without words. -/
theorem Reads.of_accepts {α : Type} [Writable α] {parse : String → Option α}
    (accepts : ∀ {line member}, parse line = some member ↔ Renders member (trimmed line))
    (trimmed_eq : ∀ {member : α} {text : String}, Renders member text → trimmed text = text)
    (words : ∀ member : α, ∃ words, Writable.Words member words) : Reads parse := by
  have survives (member : α) (text : String) (renders : Renders member text) :
      parse text = some member := by
    rw [accepts, trimmed_eq renders]
    exact renders
  refine ⟨fun _ _ => accepts, fun member => ⟨?_, ?_⟩, survives, ?_⟩
  · rintro ⟨_, fits, _⟩
    exact fits
  · intro fits
    obtain ⟨line, written⟩ := words member
    exact ⟨_, fits, line, written, rfl⟩
  · intro member other text renders renders'
    exact Option.some.inj ((survives member text renders).symm.trans (survives other text renders'))

/-- The readers of all families accept exactly the lines that directives and bindings are written
    as. -/
theorem directives_read_as_written :
    Reads parseSpec? ∧ Reads parseSchema? ∧ Reads parseOperation? ∧ Reads parseBinding? := by
  refine ⟨.of_accepts parseSpec?_eq_some_iff trimmed_of_spec ?_,
    .of_accepts parseSchema?_eq_some_iff trimmed_of_schema ?_,
    .of_accepts parseOperation?_eq_some_iff trimmed_of_operation ?_,
    .of_accepts parseBinding?_eq_some_iff trimmed_of_binding ?_⟩
  · rintro ⟨version⟩
    exact ⟨_, rfl⟩
  · rintro (id | text | text | text)
    · exact ⟨_, rfl⟩
    · exact ⟨_, Or.inl rfl⟩
    · exact ⟨_, Or.inl rfl⟩
    · exact ⟨_, Or.inl rfl⟩
  · rintro (_ | _ | _ | _ | _ | _ | ⟨mediaType, schemaId, required, description⟩)
    case requestBody =>
      cases required with
      | false => exact ⟨_, ["false"], rfl, rfl⟩
      | true => exact ⟨_, ["true"], Or.inl rfl, rfl⟩
    all_goals exact ⟨_, rfl⟩
  · intro binding
    exact ⟨_, binding.method.name, by cases binding.method <;> decide +kernel, rfl⟩

end SwaggerDocs.Directive
