/-
Module: SwaggerDocs.Proofs.Docs.Separation
Purpose: Directives and prose are apart. The first words of the rules of all families are distinct, so at
  most one rule accepts a line and the order of the rules means nothing. Each of these words has the
  shape of a directive, so what a rule accepts is kept out of the free text, and no line of the text is
  read as a directive.
Main exports: Reading, allRules, hasDirectiveShape_iff, isDirectiveLine_of_accepted, Unaccepted,
  directives_apart_from_prose
-/
import SwaggerDocs.Proofs.Docs.Prose
import SwaggerDocs.Proofs.Docs.Reading

namespace SwaggerDocs.Directive

open Text

/-! ### All rules

The rules of all families in one list, with results of one type, so that what was said of families also
holds across them. -/

/-- What a rule of some family reads on a line. The method of a binding is as it is written; documents
    may not know it. -/
inductive Reading where
  | spec (directive : SpecDirective)
  | schema (directive : SchemaDirective)
  | operation (directive : OperationDirective)
  | binding (path method : String)
deriving Repr, DecidableEq

/-- The rules of all families: one for files, four for types and fields, seven for functions, and the
    binding line. -/
def allRules : List (List Char → Option Reading) :=
  [fun cs => (info? cs).map .spec] ++
    (schemaRules.map fun rule cs => (rule cs).map .schema) ++
    (operationRules.map fun rule cs => (rule cs).map .operation) ++
    [fun cs => (bindingArguments? cs).map fun (path, method) => .binding path method]

/-- The first words of the rules of all families. -/
def allWords : List (List String) :=
  [["openapi:info"]] ++ schemaWords ++ operationWords ++ [["openapi:operation"]]

/-- The results of rules may be put into one type, whatever their words. -/
theorem startsWith_map {α β : Type} {rules : List (List Char → Option α)} {words : List (List String)}
    (starts : List.Forall₂ StartsWith rules words) (make : α → β) :
    List.Forall₂ StartsWith (rules.map fun rule cs => (rule cs).map make) words :=
  List.forall₂_map_left_iff.2 (starts.imp fun _ _ start => start.map make)

/-- Each rule of all families starts with its own words. -/
theorem allRules_start : List.Forall₂ StartsWith allRules allWords := by
  have info : StartsWith info? ["openapi:info"] := (startsWith_of_bind (by decide) _).map _
  have binding : StartsWith bindingArguments? ["openapi:operation"] :=
    startsWith_of_bind (by decide) _
  have families := List.rel_append (startsWith_map schemaRules_start Reading.schema)
    (startsWith_map operationRules_start Reading.operation)
  have started := List.rel_append (List.Forall₂.cons (info.map Reading.spec) .nil) families
  have ended := List.rel_append started (List.Forall₂.cons (binding.map fun
    (path, method) => Reading.binding path method) .nil)
  simpa only [allRules, allWords, List.append_assoc] using ended

/-- At most one rule of all families accepts a line. -/
theorem countP_allRules_le_one (cs : List Char) :
    allRules.countP (fun rule => (rule cs).isSome) ≤ 1 :=
  countP_accepting_le_one allRules_start (by decide) cs

/-- Rules of which at most one accepts a line can be tried in any order. -/
theorem firstOf_perm {α : Type} {rules others : List (List Char → Option α)} {cs : List Char}
    (perm : others.Perm rules) (single : rules.countP (fun rule => (rule cs).isSome) ≤ 1) :
    firstOf others cs = firstOf rules cs := by
  apply Option.ext
  intro member
  have reordered : others.countP (fun rule => (rule cs).isSome) ≤ 1 :=
    (perm.countP_eq _).trans_le single
  rw [firstOf_eq_some_iff_of_countP reordered, firstOf_eq_some_iff_of_countP single]
  simp only [perm.mem_iff]

/-! ### The shape of directives

The free text leaves a line out by its shape, without a look at the rules. It is enough that the words
of all rules have the shape. -/

/-- The shape of a directive: tag characters, a colon, and a tag character. -/
theorem hasDirectiveShape_iff {cs : List Char} :
    hasDirectiveShape cs = true ↔
      ∃ tag c rest, tag ≠ [] ∧ (∀ d ∈ tag, isTagChar d = true) ∧ isTagChar c = true ∧
        cs = tag ++ ':' :: c :: rest := by
  rw [hasDirectiveShape]
  constructor
  · intro shape
    split at shape
    · rename_i tag c rest read
      obtain ⟨rfl, nonempty, all, _⟩ := run?_eq_some_iff.1 read
      exact ⟨tag, c, rest, nonempty, all, shape, rfl⟩
    · cases shape
  · rintro ⟨tag, c, rest, nonempty, all, next, rfl⟩
    have read : run? isTagChar (tag ++ ':' :: c :: rest) = some (tag, ':' :: c :: rest) :=
      run?_eq_some_iff.2 ⟨rfl, nonempty, all, endsRun_cons.2 (by decide)⟩
    rw [read]
    exact next

/-- Whatever follows, a text with the shape of a directive keeps it. -/
theorem hasDirectiveShape_append {cs : List Char} (shape : hasDirectiveShape cs = true)
    (more : List Char) : hasDirectiveShape (cs ++ more) = true := by
  obtain ⟨tag, c, rest, nonempty, all, next, rfl⟩ := hasDirectiveShape_iff.1 shape
  exact hasDirectiveShape_iff.2 ⟨tag, c, rest ++ more, nonempty, all, next, by simp⟩

/-- The first word alone can give a line the shape of a directive. -/
theorem hasDirectiveShape_of_firstWord {cs : List Char}
    (shape : hasDirectiveShape (firstWord cs).toList = true) : hasDirectiveShape cs = true := by
  have whole := hasDirectiveShape_append shape (cs.dropWhile (· != ' '))
  rwa [firstWord, String.toList_ofList, List.takeWhile_append_dropWhile] at whole

/-- What some rule accepts is a directive and not prose. -/
theorem isDirectiveLine_of_accepted {line : String}
    (accepted : ∃ rule ∈ allRules, (rule (trim line.toList)).isSome = true) :
    isDirectiveLine line = true := by
  have shapes : ∀ word ∈ allWords.flatten, hasDirectiveShape word.toList = true := by
    decide +kernel
  obtain ⟨rule, listed, accepted⟩ := accepted
  obtain ⟨reading, accepted⟩ := Option.isSome_iff_exists.1 accepted
  exact hasDirectiveShape_of_firstWord
    (shapes _ (firstWord_mem_flatten allRules_start ⟨rule, listed, accepted⟩))

/-! ### Readers and prose

A line of the free text was not left out, so no rule accepts it and no reader does. -/

/-- No reader accepts a line. -/
structure Unaccepted (line : String) : Prop where
  spec : parseSpec? line = none
  schema : parseSchema? line = none
  operation : parseOperation? line = none
  binding : parseBinding? line = none

/-- A line that some reader accepts, or that names a method that documents do not know, is accepted by
    a rule. -/
theorem unaccepted_of_rules {line : String}
    (refused : ¬∃ rule ∈ allRules, (rule (trim line.toList)).isSome = true) :
    Unaccepted line ∧ parseBinding line = .none := by
  have none_of {rule : List Char → Option Reading} (listed : rule ∈ allRules) :
      rule (trim line.toList) = none := by
    rw [← Option.not_isSome_iff_eq_none]
    exact fun accepted => refused ⟨rule, listed, accepted⟩
  have schema {rule : List Char → Option SchemaDirective} (listed : rule ∈ schemaRules) :
      (fun cs => (rule cs).map Reading.schema) ∈ allRules := by
    simp only [allRules, List.mem_append, List.mem_map]
    exact Or.inl (Or.inl (Or.inr ⟨rule, listed, rfl⟩))
  have operation {rule : List Char → Option OperationDirective} (listed : rule ∈ operationRules) :
      (fun cs => (rule cs).map Reading.operation) ∈ allRules := by
    simp only [allRules, List.mem_append, List.mem_map]
    exact Or.inl (Or.inr ⟨rule, listed, rfl⟩)
  have unbound : parseBinding line = .none := by
    have arguments := none_of (List.mem_append_right _ (List.mem_singleton_self _))
    rw [Option.map_eq_none_iff] at arguments
    rw [parseBinding, arguments]
  refine ⟨⟨?_, ?_, ?_, ?_⟩, unbound⟩
  · exact Option.map_eq_none_iff.1 (none_of List.mem_cons_self)
  · exact List.findSome?_eq_none_iff.2 fun rule listed =>
      Option.map_eq_none_iff.1 (none_of (schema listed))
  · exact List.findSome?_eq_none_iff.2 fun rule listed =>
      Option.map_eq_none_iff.1 (none_of (operation listed))
  · rw [parseBinding?, unbound]

/-- At most one rule accepts a line, so the order in which rules are tried means nothing; a line that a
    rule accepts is a directive; and no line of a free text is one, or is accepted by a reader. -/
theorem directives_apart_from_prose :
    (∀ line : String, allRules.countP (fun rule => (rule (trim line.toList)).isSome) ≤ 1) ∧
    (∀ rules, rules.Perm schemaRules →
      ∀ line, firstOf rules (trim line.toList) = parseSchema? line) ∧
    (∀ rules, rules.Perm operationRules →
      ∀ line, firstOf rules (trim line.toList) = parseOperation? line) ∧
    (∀ line, (∃ rule ∈ allRules, (rule (trim line.toList)).isSome = true) →
      isDirectiveLine line = true) ∧
    ∀ docs : Documentation, docs.SingleLines → ∀ line ∈ Text.lines docs.text.toList,
      isDirectiveLine (String.ofList line) = false ∧ Unaccepted (String.ofList line) ∧
        parseBinding (String.ofList line) = .none := by
  refine ⟨fun line => countP_allRules_le_one _, ?_, ?_, fun _ => isDirectiveLine_of_accepted, ?_⟩
  · intro rules perm line
    exact firstOf_perm perm (countP_accepting_le_one schemaRules_start (by decide) _)
  · intro rules perm line
    exact firstOf_perm perm (countP_accepting_le_one operationRules_start (by decide) _)
  · intro docs single line member
    rw [single.lines_text] at member
    have plain := Documentation.not_directive_of_mem_textLines member
    refine ⟨plain, unaccepted_of_rules fun accepted => ?_⟩
    rw [isDirectiveLine_of_accepted accepted] at plain
    cases plain

/-- Prose that mentions a directive, and a directive in capitals, after a binding to a method that
    documents do not know. -/
def mention : Documentation :=
  ⟨["openapi:operation /items TRACE", "See openapi:tag items.", "Openapi:tag items"]⟩

/-- The binding is no prose, the mention is no directive, and reversed rules read a default alike. -/
theorem directives_apart_from_mention :
    (schemaRules.reverse.Perm schemaRules ∧ operationRules.reverse.Perm operationRules ∧
      mention.SingleLines ∧ "See openapi:tag items.".toList ∈ Text.lines mention.text.toList) ∧
    firstOf schemaRules.reverse (trim "schema:default 1".toList) = parseSchema? "schema:default 1" ∧
    firstOf operationRules.reverse (trim "openapi:tag items".toList) =
      parseOperation? "openapi:tag items" ∧
    isDirectiveLine "openapi:operation /items TRACE" = true ∧
    Unaccepted (String.ofList "See openapi:tag items.".toList) := by
  obtain ⟨_, schema, operation, directive, prose⟩ := directives_apart_from_prose
  have single : mention.SingleLines := by decide
  have written : "See openapi:tag items.".toList ∈ Text.lines mention.text.toList := by
    decide +kernel
  have accepted : ∃ rule ∈ allRules,
      (rule (trim "openapi:operation /items TRACE".toList)).isSome = true :=
    ⟨_, List.mem_append_right _ (List.mem_singleton_self _), by decide +kernel⟩
  exact ⟨⟨List.reverse_perm _, List.reverse_perm _, single, written⟩,
    schema _ (List.reverse_perm _) _, operation _ (List.reverse_perm _) _, directive _ accepted,
    (prose mention single _ written).2.1⟩

end SwaggerDocs.Directive
