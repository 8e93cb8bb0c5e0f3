/-
Module: SwaggerDocs.Proofs.Docs.Rules
Purpose: The rules for directive lines. A rule accepts exactly the lines that its directives are written
  as, since each of its steps does so with its part; and no line is accepted by two rules of a family,
  since their first words differ.
Main exports: parameter?_eq_some_iff, requestBody?_eq_some_iff, info?_eq_some_iff,
  schemaText?_eq_some_iff, StartsWith, countP_accepting_le_one, firstOf_eq_some_iff
-/
import SwaggerDocs.Proofs.Docs.Arguments

namespace SwaggerDocs.Directive

open Text

/-! ### Rules

A rule accepts a line if it stands for a member that the rule is for. One direction takes the steps of
the rule apart, the other puts them together. -/

/-- What a rule accepts is what its steps accept, for the one line that a member is written as. -/
theorem renders_line {α : Type} [Writable α] {member : α} {cs : List Char} {word : String}
    {words : List String} (written : ∀ line, Writable.Words member line ↔ line = word :: words) :
    Renders member (String.ofList cs) ↔
      Writable.Fits member ∧ cs = word.toList ++ spaced words := by
  rw [Renders, ← ofList_eq_line_iff]
  simp only [written, exists_eq_left]

section Rules

variable {cs : List Char} {directive : OperationDirective}

/-- The rule for parameters accepts the lines that stand for a parameter. -/
theorem parameter?_eq_some_iff :
    parameter? cs = some directive ↔
      (∃ name location typed description,
        directive = .parameter name location typed description) ∧
        Renders directive (String.ofList cs) := by
  constructor
  · intro read
    simp only [parameter?, Option.bind_eq_bind, Option.bind_eq_some_iff] at read
    obtain ⟨_, started, ⟨name, _⟩, named, ⟨location, _⟩, located, ⟨typed, _⟩, ofType, description,
      described, same⟩ := read
    cases same
    obtain rfl := arguments?_eq_some_iff.1 started
    obtain ⟨word, rfl⟩ := wordThen?_eq_some_iff.1 named
    obtain ⟨sent, rfl⟩ := locationThen?_eq_some_iff.1 located
    obtain ⟨⟨fits, quotable⟩, rfl⟩ := typedDescription_iff.1 ⟨_, ofType, described⟩
    refine ⟨⟨name, location, typed, description, rfl⟩, ?_⟩
    exact (renders_line fun _ => Iff.rfl).2 ⟨⟨word, sent, fits, quotable⟩, rfl⟩
  · rintro ⟨⟨name, location, typed, description, rfl⟩, renders⟩
    obtain ⟨⟨word, sent, fits, quotable⟩, rfl⟩ := (renders_line fun _ => Iff.rfl).1 renders
    obtain ⟨rest, ofType, described⟩ := typedDescription_iff.2 ⟨⟨fits, quotable⟩, rfl⟩
    simp only [parameter?, Option.bind_eq_bind, Option.bind_eq_some_iff]
    exact ⟨_, arguments?_eq_some_iff.2 rfl, _, wordThen?_eq_some_iff.2 ⟨word, rfl⟩, _,
      locationThen?_eq_some_iff.2 ⟨sent, rfl⟩, _, ofType, _, described, rfl⟩

/-- The rule for tags accepts the lines that stand for a tag. -/
theorem tag?_eq_some_iff :
    tag? cs = some directive ↔
      (∃ name, directive = .tag name) ∧ Renders directive (String.ofList cs) := by
  simp only [tag?, Option.map_eq_some_iff, Option.bind_eq_some_iff]
  constructor
  · rintro ⟨name, ⟨_, started, named⟩, rfl⟩
    obtain rfl := arguments?_eq_some_iff.1 started
    obtain ⟨word, rfl⟩ := lastWord?_eq_some_iff.1 named
    exact ⟨⟨name, rfl⟩, (renders_line fun _ => Iff.rfl).2 ⟨word, by simp⟩⟩
  · rintro ⟨⟨name, rfl⟩, renders⟩
    obtain ⟨word, rfl⟩ := (renders_line fun _ => Iff.rfl).1 renders
    exact ⟨name, ⟨_, arguments?_eq_some_iff.2 rfl, lastWord?_eq_some_iff.2 ⟨word, by simp⟩⟩, rfl⟩

/-- The rule for responses accepts the lines that stand for a response. -/
theorem response?_eq_some_iff :
    response? cs = some directive ↔
      (∃ key description, directive = .response key description) ∧
        Renders directive (String.ofList cs) := by
  constructor
  · intro read
    simp only [response?, Option.bind_eq_bind, Option.bind_eq_some_iff] at read
    obtain ⟨_, started, ⟨key, _⟩, keyed, description, described, same⟩ := read
    cases same
    obtain rfl := arguments?_eq_some_iff.1 started
    obtain ⟨valid, rfl⟩ := key?_eq_some_iff.1 keyed
    obtain ⟨quotable, rfl⟩ := description?_eq_some_iff.1 described
    exact ⟨⟨key, description, rfl⟩, (renders_line fun _ => Iff.rfl).2 ⟨⟨valid, quotable⟩, rfl⟩⟩
  · rintro ⟨⟨key, description, rfl⟩, renders⟩
    obtain ⟨⟨valid, quotable⟩, rfl⟩ := (renders_line fun _ => Iff.rfl).1 renders
    simp only [response?, Option.bind_eq_bind, Option.bind_eq_some_iff]
    exact ⟨_, arguments?_eq_some_iff.2 rfl, _, key?_eq_some_iff.2 ⟨valid, rfl⟩, _,
      description?_eq_some_iff.2 ⟨quotable, rfl⟩, rfl⟩

/-- The rule for contents of responses accepts the lines that stand for one. -/
theorem responseContent?_eq_some_iff :
    responseContent? cs = some directive ↔
      (∃ key mediaType schemaId, directive = .responseContent key mediaType schemaId) ∧
        Renders directive (String.ofList cs) := by
  constructor
  · intro read
    simp only [responseContent?, Option.bind_eq_bind, Option.bind_eq_some_iff] at read
    obtain ⟨_, started, ⟨key, _⟩, keyed, ⟨mediaType, _⟩, typed, schemaId, named, same⟩ := read
    cases same
    obtain rfl := arguments?_eq_some_iff.1 started
    obtain ⟨valid, rfl⟩ := keyThen?_eq_some_iff.1 keyed
    obtain ⟨token, rfl⟩ := nonBlankThen?_eq_some_iff.1 typed
    obtain ⟨word, rfl⟩ := lastWord?_eq_some_iff.1 named
    exact ⟨⟨key, mediaType, schemaId, rfl⟩,
      (renders_line fun _ => Iff.rfl).2 ⟨⟨valid, token, word⟩, by simp⟩⟩
  · rintro ⟨⟨key, mediaType, schemaId, rfl⟩, renders⟩
    obtain ⟨⟨valid, token, word⟩, rfl⟩ := (renders_line fun _ => Iff.rfl).1 renders
    simp only [responseContent?, Option.bind_eq_bind, Option.bind_eq_some_iff]
    exact ⟨_, arguments?_eq_some_iff.2 rfl, _, keyThen?_eq_some_iff.2 ⟨valid, rfl⟩, _,
      nonBlankThen?_eq_some_iff.2 ⟨token, rfl⟩, _, lastWord?_eq_some_iff.2 ⟨word, by simp⟩, rfl⟩

/-- The rule for headers of responses accepts the lines that stand for one. -/
theorem responseHeader?_eq_some_iff :
    responseHeader? cs = some directive ↔
      (∃ key name typed description, directive = .responseHeader key name typed description) ∧
        Renders directive (String.ofList cs) := by
  constructor
  · intro read
    simp only [responseHeader?, Option.bind_eq_bind, Option.bind_eq_some_iff] at read
    obtain ⟨_, started, ⟨key, _⟩, keyed, ⟨name, _⟩, named, ⟨typed, _⟩, ofType, description,
      described, same⟩ := read
    cases same
    obtain rfl := arguments?_eq_some_iff.1 started
    obtain ⟨valid, rfl⟩ := keyThen?_eq_some_iff.1 keyed
    obtain ⟨token, rfl⟩ := nonBlankThen?_eq_some_iff.1 named
    obtain ⟨⟨fits, quotable⟩, rfl⟩ := typedDescription_iff.1 ⟨_, ofType, described⟩
    refine ⟨⟨key, name, typed, description, rfl⟩, ?_⟩
    exact (renders_line fun _ => Iff.rfl).2 ⟨⟨valid, token, fits, quotable⟩, rfl⟩
  · rintro ⟨⟨key, name, typed, description, rfl⟩, renders⟩
    obtain ⟨⟨valid, token, fits, quotable⟩, rfl⟩ := (renders_line fun _ => Iff.rfl).1 renders
    obtain ⟨rest, ofType, described⟩ := typedDescription_iff.2 ⟨⟨fits, quotable⟩, rfl⟩
    simp only [responseHeader?, Option.bind_eq_bind, Option.bind_eq_some_iff]
    exact ⟨_, arguments?_eq_some_iff.2 rfl, _, keyThen?_eq_some_iff.2 ⟨valid, rfl⟩, _,
      nonBlankThen?_eq_some_iff.2 ⟨token, rfl⟩, _, ofType, _, described, rfl⟩

/-- The rule for examples of responses accepts the lines that stand for one. -/
theorem responseExample?_eq_some_iff :
    responseExample? cs = some directive ↔
      (∃ key mediaType file, directive = .responseExample key mediaType file) ∧
        Renders directive (String.ofList cs) := by
  constructor
  · intro read
    simp only [responseExample?, Option.bind_eq_bind, Option.bind_eq_some_iff] at read
    obtain ⟨_, started, ⟨key, _⟩, keyed, ⟨mediaType, _⟩, typed, file, named, same⟩ := read
    cases same
    obtain rfl := arguments?_eq_some_iff.1 started
    obtain ⟨valid, rfl⟩ := keyThen?_eq_some_iff.1 keyed
    obtain ⟨token, rfl⟩ := nonBlankThen?_eq_some_iff.1 typed
    obtain ⟨path, rfl⟩ := lastNonBlank?_eq_some_iff.1 named
    exact ⟨⟨key, mediaType, file, rfl⟩,
      (renders_line fun _ => Iff.rfl).2 ⟨⟨valid, token, path⟩, by simp⟩⟩
  · rintro ⟨⟨key, mediaType, file, rfl⟩, renders⟩
    obtain ⟨⟨valid, token, path⟩, rfl⟩ := (renders_line fun _ => Iff.rfl).1 renders
    simp only [responseExample?, Option.bind_eq_bind, Option.bind_eq_some_iff]
    exact ⟨_, arguments?_eq_some_iff.2 rfl, _, keyThen?_eq_some_iff.2 ⟨valid, rfl⟩, _,
      nonBlankThen?_eq_some_iff.2 ⟨token, rfl⟩, _,
      lastNonBlank?_eq_some_iff.2 ⟨path, by simp⟩, rfl⟩

/-- A request body has more than one line: its flag may be left out. -/
theorem requestBody?_eq_some_iff :
    requestBody? cs = some directive ↔
      (∃ mediaType schemaId required description,
        directive = .requestBody mediaType schemaId required description) ∧
        Renders directive (String.ofList cs) := by
  constructor
  · intro read
    simp only [requestBody?, Option.bind_eq_bind, Option.bind_eq_some_iff] at read
    obtain ⟨_, started, ⟨mediaType, _⟩, typed, ⟨schemaId, _⟩, named, ⟨required, description⟩, ended,
      same⟩ := read
    cases same
    obtain rfl := arguments?_eq_some_iff.1 started
    obtain ⟨token, rfl⟩ := nonBlankThen?_eq_some_iff.1 typed
    obtain ⟨word, _, rfl⟩ := word?_eq_some_iff.1 named
    obtain ⟨quotable, flag, flagged, rfl⟩ := requirement?_eq_some_iff.1 ended
    refine ⟨⟨mediaType, String.ofList schemaId, required, description, rfl⟩,
      ⟨token, word, quotable⟩, _, ⟨flag, flagged, rfl⟩, ?_⟩
    exact ofList_eq_line_iff.2 (by simp)
  · rintro ⟨⟨mediaType, schemaId, required, description, rfl⟩, ⟨token, word, quotable⟩, _,
      ⟨flag, flagged, rfl⟩, written⟩
    obtain rfl := ofList_eq_line_iff.1 written
    have named : word? (schemaId.toList ++ spaced (flag ++ describe description)) =
        some (schemaId.toList, spaced (flag ++ describe description)) :=
      word?_eq_some_iff.2 ⟨by simpa using word, endsRun_spaced (by decide +kernel) _, rfl⟩
    simp only [requestBody?, Option.bind_eq_bind, Option.bind_eq_some_iff]
    exact ⟨_, arguments?_eq_some_iff.2 rfl, _, nonBlankThen?_eq_some_iff.2 ⟨token, rfl⟩, _, named, _,
      requirement?_eq_some_iff.2 ⟨quotable, flag, flagged, rfl⟩, by simp⟩

/-- The rule for info lines accepts the lines that stand for a version. -/
theorem info?_eq_some_iff {directive : SpecDirective} :
    info? cs = some directive ↔ Renders directive (String.ofList cs) := by
  simp only [info?, Option.map_eq_some_iff, Option.bind_eq_some_iff]
  constructor
  · rintro ⟨version, ⟨_, started, named⟩, rfl⟩
    obtain rfl := arguments?_eq_some_iff.1 started
    obtain ⟨token, rfl⟩ := lastNonBlank?_eq_some_iff.1 named
    exact (renders_line fun _ => Iff.rfl).2 ⟨token, by simp⟩
  · intro renders
    obtain ⟨version⟩ := directive
    obtain ⟨token, rfl⟩ := (renders_line fun _ => Iff.rfl).1 renders
    exact ⟨version,
      ⟨_, arguments?_eq_some_iff.2 rfl, lastNonBlank?_eq_some_iff.2 ⟨token, by simp⟩⟩, rfl⟩

/-- The rule for components accepts the lines that stand for one. -/
theorem component?_eq_some_iff {directive : SchemaDirective} :
    component? cs = some directive ↔
      (∃ id, directive = .component id) ∧ Renders directive (String.ofList cs) := by
  simp only [component?, Option.map_eq_some_iff, Option.bind_eq_some_iff]
  constructor
  · rintro ⟨id, ⟨_, started, named⟩, rfl⟩
    obtain rfl := arguments?_eq_some_iff.1 started
    obtain ⟨word, rfl⟩ := lastWord?_eq_some_iff.1 named
    exact ⟨⟨id, rfl⟩, (renders_line fun _ => Iff.rfl).2 ⟨word, by simp⟩⟩
  · rintro ⟨⟨id, rfl⟩, renders⟩
    obtain ⟨word, rfl⟩ := (renders_line fun _ => Iff.rfl).1 renders
    exact ⟨id, ⟨_, arguments?_eq_some_iff.2 rfl, lastWord?_eq_some_iff.2 ⟨word, by simp⟩⟩, rfl⟩

/-- The text of an example, a format or a default is what follows its word, on a trimmed line. -/
theorem schemaText?_eq_some_iff {word text : String}
    (trimmed : ∀ c ∈ cs.getLast?, isBlank c = false) :
    schemaText? word cs = some text ↔
      IsLineText text ∧ (cs = ("openapi:" ++ word).toList ++ spaced [text] ∨
        cs = ("schema:" ++ word).toList ++ spaced [text]) := by
  have solid {before : String} (whole : '\n' ∉ text.toList)
      (written : cs = before.toList ++ ' ' :: text.toList) : IsLineText text := by
    refine ⟨whole, ?_⟩
    subst written
    cases last : text.toList.getLast? with
    | none =>
        -- A trimmed line does not end in the blank after its word.
        rw [List.getLast?_eq_none_iff.1 last] at trimmed
        exact absurd (trimmed ' ' (by simp)) (by decide)
    | some c =>
        refine ⟨c, last, trimmed c ?_⟩
        rw [List.getLast?_append, List.getLast?_cons, last]
        rfl
  rw [schemaText?, Option.bind_eq_some_iff]
  simp only [Option.or_eq_some_iff, arguments?_eq_some_iff, lineText?_eq_some_iff, spaced_cons,
    spaced_nil, List.append_nil]
  constructor
  · rintro ⟨rest, started | ⟨_, started⟩, whole, rfl⟩
    · exact ⟨solid whole started, Or.inl started⟩
    · exact ⟨solid whole started, Or.inr started⟩
  · rintro ⟨⟨whole, _⟩, written | written⟩
    · exact ⟨_, Or.inl written, whole, rfl⟩
    · refine ⟨_, Or.inr ⟨?_, written⟩, whole, rfl⟩
      rw [arguments?, written, String.toList_append, String.toList_append]
      rfl

end Rules

/-! ### Families of rules

The rules of a family are tried in order. Their first words are distinct, so at most one accepts a line,
and the order has no effect. -/

/-- The first word of a line. -/
def firstWord (cs : List Char) : String := String.ofList (cs.takeWhile (· != ' '))

/-- A word is the first word of a line if it has no blank and one follows it. -/
theorem firstWord_append {word : String} (whole : ' ' ∉ word.toList) (rest : List Char) :
    firstWord (word.toList ++ ' ' :: rest) = word := by
  have all : ∀ c ∈ word.toList, (c != ' ') = true := by
    intro c member
    have other : c ≠ ' ' := fun same => whole (same ▸ member)
    simpa using other
  rw [firstWord, List.takeWhile_append_of_pos all]
  simp

/-- A rule accepts only lines that start with one of its words. -/
def StartsWith {α : Type} (rule : List Char → Option α) (words : List String) : Prop :=
  ∀ cs member, rule cs = some member → firstWord cs ∈ words

section Families

variable {α : Type} {rules : List (List Char → Option α)} {words : List (List String)}
  {cs : List Char} {member : α}

/-- A line that some rule accepts starts with a word of some rule. -/
theorem firstWord_mem_flatten (starts : List.Forall₂ StartsWith rules words)
    (accepted : ∃ rule ∈ rules, rule cs = some member) : firstWord cs ∈ words.flatten := by
  obtain ⟨rule, listed, accepted⟩ := accepted
  induction starts with
  | nil => cases listed
  | cons start _ ih =>
      rw [List.flatten_cons, List.mem_append]
      rcases List.mem_cons.1 listed with rfl | listed
      · exact Or.inl (start cs member accepted)
      · exact Or.inr (ih listed)

/-- Of rules that share no first word, at most one accepts a line. -/
theorem countP_accepting_le_one (starts : List.Forall₂ StartsWith rules words)
    (distinct : words.flatten.Nodup) (cs : List Char) :
    rules.countP (fun rule => (rule cs).isSome) ≤ 1 := by
  induction starts with
  | nil => exact Nat.zero_le 1
  | @cons first own others rest start starts ih =>
      rw [List.flatten_cons, List.nodup_append] at distinct
      obtain ⟨_, later, apart⟩ := distinct
      cases taken : first cs with
      | none =>
          rw [List.countP_cons_of_neg (by simp [taken])]
          exact ih later
      | some member =>
          have left : others.countP (fun rule => (rule cs).isSome) = 0 := by
            rw [List.countP_eq_zero]
            intro rule listed accepted
            obtain ⟨other, accepted⟩ := Option.isSome_iff_exists.1 accepted
            have among := firstWord_mem_flatten starts ⟨rule, listed, accepted⟩
            exact apart _ (start cs member taken) _ among rfl
          rw [List.countP_cons_of_pos (by simp [taken]), left]

/-- If at most one rule accepts a line, the first result is that of whichever rule accepts it. -/
theorem firstOf_eq_some_iff_of_countP (single : rules.countP (fun rule => (rule cs).isSome) ≤ 1) :
    firstOf rules cs = some member ↔ ∃ rule ∈ rules, rule cs = some member := by
  constructor
  · exact List.exists_of_findSome?_eq_some
  · intro accepted
    induction rules with
    | nil =>
        obtain ⟨rule, listed, _⟩ := accepted
        cases listed
    | cons first others ih =>
        obtain ⟨rule, listed, accepted⟩ := accepted
        rw [firstOf, List.findSome?_cons]
        cases taken : first cs with
        | none =>
            rw [List.countP_cons_of_neg (by simp [taken])] at single
            refine ih single ⟨rule, (List.mem_cons.1 listed).resolve_left ?_, accepted⟩
            rintro rfl
            rw [taken] at accepted
            cases accepted
        | some other =>
            rw [List.countP_cons_of_pos (by simp [taken])] at single
            have left := List.countP_eq_zero.1 (Nat.le_zero.1 (Nat.le_of_succ_le_succ single))
            rcases List.mem_cons.1 listed with rfl | listed
            · exact taken.symm.trans accepted
            · exact absurd (by rw [accepted]; rfl) (left rule listed)

/-- Rules that share no first word do not stand in each other's way. -/
theorem firstOf_eq_some_iff (starts : List.Forall₂ StartsWith rules words)
    (distinct : words.flatten.Nodup) :
    firstOf rules cs = some member ↔ ∃ rule ∈ rules, rule cs = some member :=
  firstOf_eq_some_iff_of_countP (countP_accepting_le_one starts distinct cs)

end Families

/-- A rule that reads the arguments of one word starts with it. -/
theorem startsWith_of_bind {α : Type} {word : String} (whole : ' ' ∉ word.toList)
    (read : List Char → Option α) :
    StartsWith (fun cs => (arguments? word cs).bind read) [word] := by
  intro cs member accepted
  obtain ⟨rest, started, _⟩ := Option.bind_eq_some_iff.1 accepted
  rw [arguments?_eq_some_iff.1 started, firstWord_append whole]
  exact List.mem_singleton_self word

/-- What is made of the result of a rule has no effect on the words that it starts with. -/
theorem StartsWith.map {α β : Type} {rule : List Char → Option α} {words : List String}
    (start : StartsWith rule words) (make : α → β) :
    StartsWith (fun cs => (rule cs).map make) words := by
  intro cs member accepted
  obtain ⟨part, read, _⟩ := Option.map_eq_some_iff.1 accepted
  exact start cs part read

/-- A rule for a text of a schema starts with its word after either of two prefixes. -/
theorem startsWith_schemaText? {word : String} (whole : ' ' ∉ word.toList) :
    StartsWith (schemaText? word) ["openapi:" ++ word, "schema:" ++ word] := by
  intro cs text read
  rw [schemaText?, Option.bind_eq_some_iff] at read
  obtain ⟨rest, started, _⟩ := read
  have blankFree {before : String} (other : ' ' ∉ before.toList) :
      ' ' ∉ (before ++ word).toList := by
    rw [String.toList_append, List.mem_append]
    exact not_or.2 ⟨other, whole⟩
  rw [Option.or_eq_some_iff, arguments?_eq_some_iff, arguments?_eq_some_iff] at started
  rcases started with started | ⟨_, started⟩
  · rw [started, firstWord_append (blankFree (by decide))]
    exact List.mem_cons_self
  · rw [started, firstWord_append (blankFree (by decide))]
    exact List.mem_cons_of_mem _ (List.mem_singleton_self _)

/-- The first words of the rules of types and fields. -/
def schemaWords : List (List String) := [
  ["openapi:component"],
  ["openapi:example", "schema:example"],
  ["openapi:format", "schema:format"],
  ["openapi:default", "schema:default"]]

/-- Each rule of types and fields starts with its own words. -/
theorem schemaRules_start : List.Forall₂ StartsWith schemaRules schemaWords := by
  have component : StartsWith component? ["openapi:component"] := by
    intro cs member accepted
    obtain ⟨⟨id, rfl⟩, renders⟩ := component?_eq_some_iff.1 accepted
    obtain ⟨_, rfl⟩ := (renders_line fun _ => Iff.rfl).1 renders
    exact List.mem_singleton.2 (firstWord_append (by decide) _)
  have text (word : String) (whole : ' ' ∉ word.toList) (make : String → SchemaDirective) :=
    (startsWith_schemaText? whole).map make
  exact .cons component (.cons (text "example" (by decide) _)
    (.cons (text "format" (by decide) _) (.cons (text "default" (by decide) _) .nil)))

/-- The first words of the rules of functions. -/
def operationWords : List (List String) := [
  ["openapi:parameter"], ["openapi:tag"], ["openapi:response"], ["openapi:responseContent"],
  ["openapi:responseHeader"], ["openapi:responseExample"], ["openapi:requestBody"]]

/-- Each rule of functions starts with its own word. -/
theorem operationRules_start : List.Forall₂ StartsWith operationRules operationWords := by
  have tag : StartsWith tag? ["openapi:tag"] := (startsWith_of_bind (by decide) _).map _
  exact .cons (startsWith_of_bind (by decide) _) (.cons tag
    (.cons (startsWith_of_bind (by decide) _) (.cons (startsWith_of_bind (by decide) _)
      (.cons (startsWith_of_bind (by decide) _) (.cons (startsWith_of_bind (by decide) _)
        (.cons (startsWith_of_bind (by decide) _) .nil))))))

end SwaggerDocs.Directive
