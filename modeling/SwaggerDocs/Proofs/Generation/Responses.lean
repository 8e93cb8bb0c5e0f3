/-
Module: SwaggerDocs.Proofs.Generation.Responses
Purpose: The responses of an operation, read off its directives. A directive opens at most one response
  and writes at most one place in it: the description, the schema, a header or an example. A response
  stands where one was opened, and a place holds what was written there last. So directives that write
  different places can change their order, and those that write none can stand anywhere.
Main exports: OperationDirective.Opens, OperationDirective.aim, Generation.gathered,
  Generation.find?_responses, Generation.responses_merge
-/
import SwaggerDocs.Proofs.Generation.Documents
import SwaggerDocs.Proofs.Swagger.Changes

namespace SwaggerDocs

open Generation

/-! ### What a directive writes

For each of the four places in a response, what a directive writes there. A file of an example that
cannot be read counts as if its directive were not there. -/

namespace OperationDirective

/-- A directive makes sure that there is a response of a key. One for an example does so only if its
    file, which it names relative to the directory of the source, can be read. -/
def Opens (files : ExampleFiles) (source : Path) (key : ResponseKey) : OperationDirective → Prop
  | .response key' _ | .responseContent key' _ _ | .responseHeader key' _ _ _ => key' = key
  | .responseExample key' _ file => key' = key ∧ (files (source.directory.join file)).isSome
  | .parameter _ _ _ _ | .tag _ | .requestBody _ _ _ _ => False

/-- The description that a directive gives the response of a key. -/
@[simp] def description? (key : ResponseKey) : OperationDirective → Option String
  | .response key' description => if key' = key then description else none
  | _ => none

/-- The identifier of the schema that a directive gives the response of a key. -/
@[simp] def contentId? (key : ResponseKey) : OperationDirective → Option String
  | .responseContent key' _ schemaId => if key' = key then some schemaId else none
  | _ => none

/-- The header that a directive gives the response of a key, with its name. -/
@[simp] def headers (key : ResponseKey) : OperationDirective → List (String × Header)
  | .responseHeader key' name typed description =>
      if key' = key then [(name, ⟨typed.typeName, typed.format, description⟩)] else []
  | _ => []

/-- The example that a directive gives the response of a key, with its media type, if its file can be
    read. -/
@[simp] def examples (files : ExampleFiles) (source : Path) (key : ResponseKey) :
    OperationDirective → List (String × Json)
  | .responseExample key' mediaType file =>
      if key' = key then
        ((files (source.directory.join file)).map fun bytes => (mediaType, examplePayload bytes)).toList
      else []
  | _ => []

end OperationDirective

/-- The kinds of directives of functions. -/
inductive DirectiveKind where
  | parameter
  | tag
  | response
  | responseContent
  | responseHeader
  | responseExample
  | requestBody
deriving Repr, DecidableEq

/-- What a directive is about. -/
structure Aim where
  kind : DirectiveKind
  /-- The response. -/
  key : Option ResponseKey := none
  /-- The name of a header or the media type of an example. -/
  part : Option String := none
deriving Repr, DecidableEq

/-- The kind of a directive, and for a response its key and the part. The media type of
    `responseContent` is no part, since a response has one schema. -/
def OperationDirective.aim : OperationDirective → Aim
  | .parameter _ _ _ _ => { kind := .parameter }
  | .tag _ => { kind := .tag }
  | .response key _ => { kind := .response, key := key }
  | .responseContent key _ _ => { kind := .responseContent, key := key }
  | .responseHeader key name _ _ => { kind := .responseHeader, key := key, part := name }
  | .responseExample key mediaType _ => { kind := .responseExample, key := key, part := mediaType }
  | .requestBody _ _ _ _ => { kind := .requestBody }

/-- The directive is about a response. -/
def OperationDirective.isResponse (directive : OperationDirective) : Bool :=
  directive.aim.key.isSome

namespace Generation

/-- A response with all that directives write for its key. -/
def gathered (files : ExampleFiles) (source : Path) (key : ResponseKey)
    (directives : List OperationDirective) (response : Response) : Response where
  description := (directives.filterMap (·.description? key)).getLast?.getD response.description
  schema :=
    ((directives.filterMap (·.contentId? key)).getLast?.map Schema.referTo).or response.schema
  headers := Entries.extend response.headers (directives.flatMap (·.headers key))
  examples := Entries.extend response.examples (directives.flatMap (·.examples files source key))

section Fold

variable (files : ExampleFiles) (source : Path) (key : ResponseKey)

/-- What directives write is what the first one writes, and then the others. -/
theorem gathered_cons (directive : OperationDirective) (rest : List OperationDirective)
    (response : Response) :
    gathered files source key (directive :: rest) response =
      gathered files source key rest (gathered files source key [directive] response) := by
  simp only [gathered, filterMap_cons_eq, List.filterMap_nil, List.append_nil, List.getLast?_append,
    List.flatMap_cons, List.flatMap_nil, Entries.extend_append, Option.map_or, Option.or_assoc]
  cases (rest.filterMap (·.description? key)).getLast? <;> rfl

/-- A directive for another response writes nothing. -/
theorem gathered_of_ne {directive : OperationDirective} (other : directive.aim.key ≠ some key)
    (response : Response) : gathered files source key [directive] response = response := by
  cases directive <;> simp_all [gathered, OperationDirective.aim]

/-- A change of the response that a directive is about gathers what the directive writes, if it does so
    for its own key. -/
theorem responseAt_of_change {operation : Operation} {directive : OperationDirective}
    {own : ResponseKey} {change : Response → Response} (about : directive.aim.key = some own)
    (writes : ∀ response, change response = gathered files source own [directive] response) :
    (operation.updateResponse own change).responseAt key =
      gathered files source key [directive] (operation.responseAt key) := by
  rw [Operation.responseAt_updateResponse]
  by_cases same : key = own
  · rw [if_pos same, same, writes]
  · rw [if_neg same, gathered_of_ne files source key]
    simpa [about] using Ne.symm same

/-- A directive changes the response of a key by what it writes for it. -/
theorem responseAt_applyOperationDirective (operation : Operation)
    (directive : OperationDirective) :
    (applyOperationDirective files source operation directive).responseAt key =
      gathered files source key [directive] (operation.responseAt key) := by
  cases directive with
  | response own description =>
      refine responseAt_of_change files source key rfl fun response => ?_
      cases description <;> simp [gathered]
  | responseContent own mediaType schemaId =>
      refine responseAt_of_change files source key rfl fun response => ?_
      simp [gathered]
  | responseHeader own name typed description =>
      refine responseAt_of_change files source key rfl fun response => ?_
      simp [gathered]
  | responseExample own mediaType file =>
      rw [applyOperationDirective, loadExample?, examplePath]
      cases read : files (source.directory.join file) with
      | none => simp [gathered, read]
      | some bytes =>
          refine responseAt_of_change files source key rfl fun response => ?_
          simp [gathered, read]
  | parameter name location typed description => rfl
  | tag name => rfl
  | requestBody mediaType schemaId required description => rfl

/-- Directives in turn change the response of a key by all that they write for it. -/
theorem responseAt_foldl (directives : List OperationDirective) (operation : Operation) :
    (directives.foldl (applyOperationDirective files source) operation).responseAt key =
      gathered files source key directives (operation.responseAt key) := by
  induction directives generalizing operation with
  | nil => rfl
  | cons directive rest ih =>
      rw [List.foldl_cons, ih, responseAt_applyOperationDirective, ← gathered_cons]

/-- A response stands after a directive if it did before, or the directive opens it. -/
theorem isSome_applyOperationDirective (operation : Operation) (directive : OperationDirective) :
    ((applyOperationDirective files source operation directive).responses.find? key).isSome ↔
      directive.Opens files source key ∨ (operation.responses.find? key).isSome := by
  cases directive with
  | response own description => exact Operation.isSome_updateResponse _ _ _ _
  | responseContent own mediaType schemaId => exact Operation.isSome_updateResponse _ _ _ _
  | responseHeader own name typed description => exact Operation.isSome_updateResponse _ _ _ _
  | responseExample own mediaType file =>
      rw [applyOperationDirective, OperationDirective.Opens, loadExample?, examplePath]
      cases files (source.directory.join file) with
      | none => simp
      | some bytes => simp [Operation.isSome_updateResponse]
  | parameter name location typed description => exact (or_iff_right not_false).symm
  | tag name => exact (or_iff_right not_false).symm
  | requestBody mediaType schemaId required description => exact (or_iff_right not_false).symm

/-- A response stands where one stood or a directive opens one. -/
theorem isSome_foldl (directives : List OperationDirective) (operation : Operation) :
    ((directives.foldl (applyOperationDirective files source) operation).responses.find?
        key).isSome ↔
      (∃ directive ∈ directives, directive.Opens files source key) ∨
        (operation.responses.find? key).isSome := by
  induction directives generalizing operation with
  | nil => simp
  | cons directive rest ih =>
      rw [List.foldl_cons, ih, isSome_applyOperationDirective, List.exists_mem_cons_iff, or_assoc,
        or_left_comm]

end Fold

section Function

variable (files : ExampleFiles) (source : Path) (function : FunctionDeclaration)

/-- An operation has a response exactly if one of its directives opens it. -/
theorem isSome_responses (key : ResponseKey) :
    ((buildOperation files source function).responses.find? key).isSome ↔
      ∃ directive ∈ operationDirectives function.docs, directive.Opens files source key :=
  (isSome_foldl files source key _ _).trans (or_iff_left Bool.false_ne_true)

/-- A response is gathered from nothing. -/
theorem responseAt_buildOperation (key : ResponseKey) :
    (buildOperation files source function).responseAt key =
      gathered files source key (operationDirectives function.docs) {} :=
  responseAt_foldl files source key _ _

/-- The response of a key is opened by a directive and holds what the directives write for it. -/
theorem find?_responses {key : ResponseKey} {response : Response} :
    (buildOperation files source function).responses.find? key = some response ↔
      (∃ directive ∈ operationDirectives function.docs, directive.Opens files source key) ∧
        response = gathered files source key (operationDirectives function.docs) {} := by
  rw [← isSome_responses, ← responseAt_buildOperation, Operation.responseAt]
  cases (buildOperation files source function).responses.find? key with
  | none => simp
  | some found => simp [eq_comm]

end Function

/-! ### The order of directives

Two directives write the same place only if they are about the same thing. So neighbours that are about
different things may change places, and with them all that can be reached by such changes. -/

section Order

variable {files : ExampleFiles} {source : Path}

/-- Two blocks have the same responses if they open the same ones and write the same for each. -/
theorem responses_congr {function other : FunctionDeclaration}
    (opened : ∀ key, (∃ directive ∈ operationDirectives other.docs, directive.Opens files source key) ↔
      ∃ directive ∈ operationDirectives function.docs, directive.Opens files source key)
    (written : ∀ key, gathered files source key (operationDirectives other.docs) {} =
      gathered files source key (operationDirectives function.docs) {}) :
    (buildOperation files source other).responses =
      (buildOperation files source function).responses := by
  apply Entries.eq_of_find?_eq
  · exact (plain_buildOperation files source other).ordered
  · exact (plain_buildOperation files source function).ordered
  · intro key
    apply Option.ext
    intro response
    exact (find?_responses files source other).trans
      ((and_congr (opened key) (by rw [written key])).trans (find?_responses files source function).symm)

variable {directive first second : OperationDirective} {key : ResponseKey}

/-- A directive that writes a description is about the response itself. -/
theorem aim_of_description? {text : String} (writes : directive.description? key = some text) :
    directive.aim = { kind := .response, key := key } := by
  cases directive <;> simp_all [OperationDirective.aim]

/-- A directive that writes a schema is about the content of the response. -/
theorem aim_of_contentId? {id : String} (writes : directive.contentId? key = some id) :
    directive.aim = { kind := .responseContent, key := key } := by
  cases directive <;> simp_all [OperationDirective.aim]

/-- A directive that writes a header is about the header of this name. -/
theorem aim_of_headers {entry : String × Header} (writes : entry ∈ directive.headers key) :
    directive.aim = { kind := .responseHeader, key := key, part := entry.1 } := by
  cases directive <;> simp_all [OperationDirective.aim]

/-- A directive that writes an example is about the example of this media type. -/
theorem aim_of_examples {entry : String × Json}
    (writes : entry ∈ directive.examples files source key) :
    directive.aim = { kind := .responseExample, key := key, part := entry.1 } := by
  cases directive with
  | responseExample own mediaType file =>
      rw [OperationDirective.examples] at writes
      split at writes
      · rename_i same
        obtain ⟨payload, _, rfl⟩ := Option.map_eq_some_iff.1 (Option.mem_toList.1 writes)
        rw [OperationDirective.aim, same]
      · cases writes
  | _ => cases writes

/-- Of two directives that are about different things, one does not write a given place. -/
theorem getLast?_pair_comm {α : Type} {write : OperationDirective → Option α} {place : Aim}
    (aimed : ∀ directive value, write directive = some value → directive.aim = place)
    (apart : first.aim ≠ second.aim) :
    ([first, second].filterMap write).getLast? = ([second, first].filterMap write).getLast? := by
  cases one : write first with
  | none => simp [one]
  | some value =>
      cases two : write second with
      | none => simp [two]
      | some other => exact absurd ((aimed _ _ one).trans (aimed _ _ two).symm) apart

/-- Two directives that are about different things write the same in either order. -/
theorem gathered_pair_comm (apart : first.aim ≠ second.aim) {response : Response}
    (headers : response.headers.Ascending) (examples : response.examples.Ascending) :
    gathered files source key [first, second] response =
      gathered files source key [second, first] response := by
  have descriptions : ([first, second].filterMap (·.description? key)).getLast? =
      ([second, first].filterMap (·.description? key)).getLast? :=
    getLast?_pair_comm (fun _ _ => aim_of_description?) apart
  have contents : ([first, second].filterMap (·.contentId? key)).getLast? =
      ([second, first].filterMap (·.contentId? key)).getLast? :=
    getLast?_pair_comm (fun _ _ => aim_of_contentId?) apart
  have headerNames : ∀ entry ∈ first.headers key, ∀ other ∈ second.headers key,
      entry.1 ≠ other.1 := by
    intro entry one other two same
    apply apart
    rw [aim_of_headers one, aim_of_headers two, same]
  have mediaTypes : ∀ entry ∈ first.examples files source key,
      ∀ other ∈ second.examples files source key, entry.1 ≠ other.1 := by
    intro entry one other two same
    apply apart
    rw [aim_of_examples one, aim_of_examples two, same]
  have headersComm := Entries.extend_comm headers headerNames
  have examplesComm := Entries.extend_comm examples mediaTypes
  simp only [gathered, descriptions, contents, List.flatMap_cons, List.flatMap_nil, List.append_nil,
    Entries.extend_append, headersComm, examplesComm]

/-- What directives write is what those at the front write, and then the others. -/
theorem gathered_append (directives later : List OperationDirective) (response : Response) :
    gathered files source key (directives ++ later) response =
      gathered files source key later (gathered files source key directives response) := by
  induction directives generalizing response with
  | nil => rfl
  | cons directive rest ih =>
      rw [List.cons_append, gathered_cons, ih, ← gathered_cons]

/-- Neighbours that are about different things may change places. -/
theorem gathered_swap (apart : first.aim ≠ second.aim) (before after : List OperationDirective) :
    gathered files source key (before ++ second :: first :: after) {} =
      gathered files source key (before ++ first :: second :: after) {} := by
  have split (one two : OperationDirective) :
      before ++ one :: two :: after = before ++ [one, two] ++ after := by simp
  rw [split, split, gathered_append, gathered_append, gathered_append, gathered_append]
  congr 1
  apply gathered_pair_comm (Ne.symm apart)
  · exact Entries.ascending_extend _ trivial
  · exact Entries.ascending_extend _ trivial

/-- Only directives of responses write anything. -/
theorem gathered_filter (directives : List OperationDirective) (response : Response) :
    gathered files source key (directives.filter (·.isResponse)) response =
      gathered files source key directives response := by
  induction directives generalizing response with
  | nil => rfl
  | cons directive rest ih =>
      by_cases about : directive.isResponse = true
      · rw [List.filter_cons_of_pos about, gathered_cons, ih, ← gathered_cons]
      · have other : directive.aim.key ≠ some key := by
          intro same
          rw [OperationDirective.isResponse, same] at about
          exact about rfl
        rw [List.filter_cons_of_neg about, ih, gathered_cons, gathered_of_ne files source key other]

/-- A directive that opens a response is about a response. -/
theorem isResponse_of_opens (opens : directive.Opens files source key) :
    directive.isResponse = true := by
  cases directive with
  | parameter name location typed description => exact opens.elim
  | tag name => exact opens.elim
  | requestBody mediaType schemaId required description => exact opens.elim
  | _ => rfl

/-- Only directives of responses open any. -/
theorem exists_opens_filter {directives : List OperationDirective} :
    (∃ directive ∈ directives.filter (·.isResponse), directive.Opens files source key) ↔
      ∃ directive ∈ directives, directive.Opens files source key := by
  constructor
  · rintro ⟨directive, member, opens⟩
    exact ⟨directive, (List.mem_filter.1 member).1, opens⟩
  · rintro ⟨directive, member, opens⟩
    exact ⟨directive, List.mem_filter.2 ⟨member, isResponse_of_opens opens⟩, opens⟩

end Order

/-! ### Example files

What stands in an example file is kept in any case: as a value, as a text, or as what lenient reading
makes of its bytes. -/

/-- A text is the JSON value that it writes, or else itself. -/
theorem examplePayload_toUTF8 (text : String) :
    examplePayload text.toUTF8 = (Json.parse? text).getD (.string text) := by
  rw [examplePayload, Text.decodeExact?_eq_some_iff.2 rfl, Option.bind_some,
    Text.decodeLenient_toUTF8]
  cases Json.parse? text <;> rfl

/-- Bytes that are no text are what lenient reading makes of them. -/
theorem examplePayload_of_no_text {bytes : ByteArray}
    (noText : ∀ text : String, text.toUTF8 ≠ bytes) :
    examplePayload bytes = .string (Text.decodeLenient bytes) := by
  have unread : Text.decodeExact? bytes = none :=
    Option.eq_none_iff_forall_ne_some.2 fun text read =>
      noText text (Text.decodeExact?_eq_some_iff.1 read)
  rw [examplePayload, unread, Option.bind_none]

/-- A response stands for each key that a directive opens, and for no other key. Its description is the
    one that was written last, if any; its schema refers to the identifier that was written last; and
    each of its headers and each of its examples is the one that was written last. An example is the
    JSON value in its file, or else the text of the file. Two neighbours that differ in kind, in the key,
    or in the header name or media type may change places, and directives of other kinds may stand
    anywhere. -/
theorem responses_merge (files : ExampleFiles) (source : Path) (function : FunctionDeclaration) :
    let directives := operationDirectives function.docs
    let responses := (buildOperation files source function).responses
    (∀ key, (responses.find? key).isSome ↔
      ∃ directive ∈ directives, directive.Opens files source key) ∧
    (∀ key response, responses.find? key = some response →
      response.description = (directives.filterMap (·.description? key)).getLast?.getD "" ∧
      response.schema = (directives.filterMap (·.contentId? key)).getLast?.map
        (fun id => { reference := some ("#/definitions/" ++ id) }) ∧
      response.schema.bind Schema.referenceTarget? =
        (directives.filterMap (·.contentId? key)).getLast? ∧
      (∀ name, response.headers.find? name =
        Entries.find? name (directives.flatMap (·.headers key)).reverse) ∧
      ∀ mediaType, response.examples.find? mediaType =
        Entries.find? mediaType (directives.flatMap (·.examples files source key)).reverse) ∧
    (∀ text : String, examplePayload text.toUTF8 = (Json.parse? text).getD (.string text)) ∧
    (∀ bytes, (∀ text : String, text.toUTF8 ≠ bytes) →
      examplePayload bytes = .string (Text.decodeLenient bytes)) ∧
    (∀ (other : FunctionDeclaration) (before after : List OperationDirective)
        (first second : OperationDirective), directives = before ++ first :: second :: after →
      operationDirectives other.docs = before ++ second :: first :: after →
        first.aim ≠ second.aim → (buildOperation files source other).responses = responses) ∧
    ∀ other : FunctionDeclaration,
      (operationDirectives other.docs).filter (·.isResponse) = directives.filter (·.isResponse) →
        (buildOperation files source other).responses = responses := by
  intro directives responses
  refine ⟨isSome_responses files source function, ?_, examplePayload_toUTF8,
    fun _ => examplePayload_of_no_text, ?_, ?_⟩
  · intro key response found
    obtain ⟨_, rfl⟩ := (find?_responses files source function).1 found
    refine ⟨rfl, Option.or_none, ?_, fun name => ?_, fun mediaType => ?_⟩
    · rw [gathered, Option.or_none]
      cases (directives.filterMap (·.contentId? key)).getLast? with
      | none => rfl
      | some id => exact Schema.referenceTarget?_referTo id
    · exact (Entries.find?_extend name [] _).trans Option.or_none
    · exact (Entries.find?_extend mediaType [] _).trans Option.or_none
  · intro other before after first second listed swapped apart
    have own : operationDirectives function.docs = before ++ first :: second :: after := listed
    apply responses_congr
    · intro key
      rw [swapped, own]
      simp only [List.mem_append, List.mem_cons, or_left_comm]
    · intro key
      rw [swapped, own]
      exact gathered_swap apart before after
  · intro other same
    apply responses_congr
    · intro key
      rw [← exists_opens_filter, same, exists_opens_filter]
    · intro key
      rw [← gathered_filter, same, gathered_filter]

/-- A function with a response that has a schema and two examples, of which the second names a file that
    may be missing, and with headers of it. -/
def limited (headers : List String) : FunctionDeclaration where
  name := "list"
  docs := ⟨["openapi:response 429 \"Too many requests\"",
    "openapi:responseContent 429 application/json Problem",
    "openapi:responseExample 429 text/plain late.txt",
    "openapi:responseExample 429 text/plain missing.txt"] ++ headers⟩

/-- The directives of the function before those of its headers. -/
def limitedDirectives : List OperationDirective :=
  [.response (.status 429) (some "Too many requests"),
    .responseContent (.status 429) "application/json" "Problem",
    .responseExample (.status 429) "text/plain" "late.txt",
    .responseExample (.status 429) "text/plain" "missing.txt"]

/-- One example file. -/
def lateFile : ExampleFiles := fun path =>
  if path = ⟨"api/late.txt"⟩ then some "Later".toUTF8 else none

/-- The example is the text of the file that can be read, and the directives of two headers may change
    places, whose names differ. -/
theorem responses_merge_headers :
    let retry := "openapi:responseHeader 429 Retry-After integer/int32"
    let limit := "openapi:responseHeader 429 X-Limit integer"
    let responses := (buildOperation lateFile ⟨"api/list.rs"⟩ (limited [retry, limit])).responses
    (∃ response, responses.find? (.status 429) = some response ∧
      response.description = "Too many requests" ∧
      response.schema.bind Schema.referenceTarget? = some "Problem" ∧
      response.examples.find? "text/plain" = some (.string "Later") ∧
      response.headers.find? "X-Limit" = some ⟨"integer", none, none⟩) ∧
    (buildOperation lateFile ⟨"api/list.rs"⟩ (limited [limit, retry])).responses = responses := by
  intro retry limit responses
  obtain ⟨opened, written, payload, _, swap, _⟩ :=
    responses_merge lateFile ⟨"api/list.rs"⟩ (limited [retry, limit])
  have own : operationDirectives (limited [retry, limit]).docs = limitedDirectives ++
      [.responseHeader (.status 429) "Retry-After" ⟨"integer", some "int32"⟩ none,
        .responseHeader (.status 429) "X-Limit" ⟨"integer", none⟩ none] := by decide +kernel
  constructor
  · have first : .response (.status 429) (some "Too many requests") ∈
        operationDirectives (limited [retry, limit]).docs := own ▸ List.mem_cons_self
    obtain ⟨response, found⟩ := Option.isSome_iff_exists.1 ((opened (.status 429)).2 ⟨_, first, rfl⟩)
    obtain ⟨description, _, schema, headers, examples⟩ := written _ _ found
    rw [own] at description schema headers examples
    have noJson : Json.parse? "Later" = none := by decide +kernel
    have value : examplePayload "Later".toUTF8 = .string "Later" := by
      rw [payload, noJson]
      rfl
    exact ⟨response, found, description, schema, (examples "text/plain").trans (congrArg some value),
      headers "X-Limit"⟩
  · exact swap (limited [limit, retry]) limitedDirectives [] _ _ own (by decide +kernel) (by decide)

end Generation

end SwaggerDocs
