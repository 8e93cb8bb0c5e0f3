/-
Module: SwaggerDocs.Proofs.Generation.Parameters
Purpose: The parameters, tags and media types of an operation, read off its directives. Parameters
  of the path and the query are added at the end, each for itself. A request body is added at the end once,
  and from then on is replaced where it stands; nothing else can stand in its place, since a directive
  does not put a parameter into the body. A list of media types names each type where it first occurs.
Main exports: OperationDirective.parameter?, OperationDirective.body?, Generation.foldl_writes,
  Generation.parameters_of_first, Generation.parameters_tags_media
-/
import SwaggerDocs.Proofs.Generation.Responses

namespace SwaggerDocs

open Generation

/-! ### What a directive adds

Each part of an operation is read off the directives by a function of its own, which says what one
directive adds to this part. -/

namespace OperationDirective

/-- The tag that a directive adds. -/
def tag? : OperationDirective → Option String
  | .tag name => some name
  | _ => none

/-- The parameter of the path or the query that a directive adds. -/
def parameter? : OperationDirective → Option Parameter
  | .parameter name location typed description =>
      some
        { name := name
          location := location
          description := description
          required := decide (location = .path)
          type? := some typed.typeName
          format := typed.format
          schema := none }
  | _ => none

/-- The request body that a directive sets. Its schema refers to a definition. -/
def body? : OperationDirective → Option Parameter
  | .requestBody _ schemaId required description =>
      some
        { name := "body"
          location := .body
          description := description
          required := required
          type? := none
          format := none
          schema := some { reference := some ("#/definitions/" ++ schemaId) } }
  | _ => none

/-- The media type of request bodies that a directive names. -/
def consumed? : OperationDirective → Option String
  | .requestBody mediaType _ _ _ => some mediaType
  | _ => none

/-- The media type of responses that a directive names. -/
def produced? : OperationDirective → Option String
  | .responseContent _ mediaType _ => some mediaType
  | _ => none

/-- All request bodies have the same name and location. -/
theorem eq_body_of_body? {directive : OperationDirective} {parameter : Parameter}
    (sets : directive.body? = some parameter) :
    parameter.name = "body" ∧ parameter.location = .body := by
  cases directive with
  | requestBody mediaType schemaId required description =>
      cases sets
      exact ⟨rfl, rfl⟩
  | _ => cases sets

/-- A directive for the request body adds no other parameter. -/
theorem parameter?_of_body? {directive : OperationDirective} {parameter : Parameter}
    (sets : directive.body? = some parameter) : directive.parameter? = none := by
  cases directive with
  | requestBody mediaType schemaId required description => rfl
  | _ => cases sets

/-- Tags are added by directives of one kind. -/
theorem kind_of_tag? (directive : OperationDirective) (tag : String)
    (adds : directive.tag? = some tag) : directive.aim.kind = .tag := by
  cases directive with
  | tag name => rfl
  | _ => cases adds

/-- The request body is set by directives of one kind. -/
theorem kind_of_body? (directive : OperationDirective) (parameter : Parameter)
    (sets : directive.body? = some parameter) : directive.aim.kind = .requestBody := by
  cases directive with
  | requestBody mediaType schemaId required description => rfl
  | _ => cases sets

/-- The directives that set a request body also name its media type. -/
theorem kind_of_consumed? (directive : OperationDirective) (mediaType : String)
    (adds : directive.consumed? = some mediaType) : directive.aim.kind = .requestBody := by
  cases directive with
  | requestBody mediaType schemaId required description => rfl
  | _ => cases adds

/-- The media types of responses are named by directives of one kind. -/
theorem kind_of_produced? (directive : OperationDirective) (mediaType : String)
    (adds : directive.produced? = some mediaType) : directive.aim.kind = .responseContent := by
  cases directive with
  | responseContent key mediaType schemaId => rfl
  | _ => cases adds

end OperationDirective

namespace Operation

/-! ### Lists that are added to

How an item gets into a list: at the end unless it stands there, or in the place of the one with its
name and location. -/

/-- Items that are added unless they stand there: those of both lists, each where it first occurs. -/
theorem foldl_addOnce (items later : List String) :
    later.foldl (fun list item => addOnce item list) items.eraseDups = (items ++ later).eraseDups := by
  induction later generalizing items with
  | nil => rw [List.foldl_nil, List.append_nil]
  | cons item rest ih => rw [List.foldl_cons, addOnce_eraseDups, ih, List.append_assoc]; rfl

/-- Where no parameter has the name and location, a parameter is put at the end. -/
theorem putParameter_of_absent {added : Parameter} {parameters : List Parameter}
    (absent : ∀ parameter ∈ parameters, parameter.sameSlot added = false) :
    putParameter added parameters = parameters ++ [added] := by
  induction parameters with
  | nil => rfl
  | cons existing rest ih =>
      obtain ⟨first, later⟩ := List.forall_mem_cons.1 absent
      rw [putParameter, if_neg (by simp [first]), ih later]
      rfl

/-- The first parameter of the name and location is replaced where it stands. -/
theorem putParameter_of_first {added existing : Parameter} {before after : List Parameter}
    (absent : ∀ parameter ∈ before, parameter.sameSlot added = false)
    (same : existing.sameSlot added = true) :
    putParameter added (before ++ existing :: after) = before ++ added :: after := by
  induction before with
  | nil => rw [List.nil_append, putParameter, if_pos same]; rfl
  | cons parameter rest ih =>
      obtain ⟨first, later⟩ := List.forall_mem_cons.1 absent
      rw [List.cons_append, putParameter, if_neg (by simp [first]), ih later]
      rfl

end Operation

namespace Generation

/-! ### Directives in turn

Tags and media types are folds that only add. Parameters are harder: the request body is put in place
once a first one stands there, so the list of directives is split at the first that sets one. -/

/-- A part of a state that each step leaves alone or adds an item to collects these items. -/
theorem foldl_writes {σ δ α β : Type} {step : σ → δ → σ} (read : σ → α) (write : δ → Option β)
    (add : α → β → α)
    (steps : ∀ state d, read (step state d) = (write d).elim (read state) (add (read state)))
    (items : List δ) (state : σ) :
    read (items.foldl step state) = (items.filterMap write).foldl add (read state) := by
  induction items generalizing state with
  | nil => rfl
  | cons item rest ih =>
      rw [List.foldl_cons, ih, steps, List.filterMap_cons]
      cases write item <;> rfl

section Fold

variable (files : ExampleFiles) (source : Path)

/-- A directive adds its tag and its parameter at the end, its media type unless it stands there, and
    puts its request body. -/
theorem parts_applyOperationDirective (operation : Operation) (directive : OperationDirective) :
    let next := applyOperationDirective files source operation directive
    next.tags = directive.tag?.elim operation.tags (operation.tags ++ [·]) ∧
    next.consumes =
      directive.consumed?.elim operation.consumes (Operation.addOnce · operation.consumes) ∧
    next.produces =
      directive.produced?.elim operation.produces (Operation.addOnce · operation.produces) ∧
    next.parameters =
      directive.body?.elim operation.parameters (Operation.putParameter · operation.parameters) ++
        directive.parameter?.toList := by
  intro next
  cases directive with
  | parameter name location typed description => exact ⟨rfl, rfl, rfl, rfl⟩
  | responseExample key mediaType file =>
      -- An example changes responses only, whether or not its file can be read.
      have same : next.tags = operation.tags ∧ next.consumes = operation.consumes ∧
          next.produces = operation.produces ∧ next.parameters = operation.parameters := by
        simp only [next, applyOperationDirective]
        cases loadExample? files source file <;> exact ⟨rfl, rfl, rfl, rfl⟩
      exact ⟨same.1, same.2.1, same.2.2.1, same.2.2.2.trans (List.append_nil _).symm⟩
  | _ => exact ⟨rfl, rfl, rfl, (List.append_nil _).symm⟩

/-- Tags are kept in the order of their directives, repeated ones as well. -/
theorem tags_foldl (directives : List OperationDirective) (operation : Operation) :
    (directives.foldl (applyOperationDirective files source) operation).tags =
      operation.tags ++ directives.filterMap (·.tag?) := by
  rw [foldl_writes Operation.tags OperationDirective.tag? (fun tags tag => tags ++ [tag])
    fun operation directive => (parts_applyOperationDirective files source operation directive).1]
  exact List.foldl_append_eq_append.trans (congrArg _ (List.flatMap_singleton' _))

/-- The media types of request bodies are named once each. -/
theorem consumes_foldl (directives : List OperationDirective) {operation : Operation}
    (fresh : operation.consumes = []) :
    (directives.foldl (applyOperationDirective files source) operation).consumes =
      (directives.filterMap (·.consumed?)).eraseDups := by
  rw [foldl_writes Operation.consumes OperationDirective.consumed?
    (fun list mediaType => Operation.addOnce mediaType list)
    fun operation directive =>
      (parts_applyOperationDirective files source operation directive).2.1, fresh]
  exact Operation.foldl_addOnce [] _

/-- The media types of responses are named once each. -/
theorem produces_foldl (directives : List OperationDirective) {operation : Operation}
    (fresh : operation.produces = []) :
    (directives.foldl (applyOperationDirective files source) operation).produces =
      (directives.filterMap (·.produced?)).eraseDups := by
  rw [foldl_writes Operation.produces OperationDirective.produced?
    (fun list mediaType => Operation.addOnce mediaType list)
    fun operation directive =>
      (parts_applyOperationDirective files source operation directive).2.2.1, fresh]
  exact Operation.foldl_addOnce [] _

/-- A directive puts its request body and adds its parameter; no directive does both. -/
theorem parameters_applyOperationDirective (operation : Operation)
    (directive : OperationDirective) :
    (applyOperationDirective files source operation directive).parameters =
      directive.body?.elim operation.parameters (Operation.putParameter · operation.parameters) ++
        directive.parameter?.toList :=
  (parts_applyOperationDirective files source operation directive).2.2.2

/-- Without a request body, the parameters are added in turn. -/
theorem parameters_foldl_of_no_body {directives : List OperationDirective}
    (bodiless : directives.filterMap (·.body?) = []) (operation : Operation) :
    (directives.foldl (applyOperationDirective files source) operation).parameters =
      operation.parameters ++ directives.filterMap (·.parameter?) := by
  induction directives generalizing operation with
  | nil => exact (List.append_nil _).symm
  | cons directive rest ih =>
      rw [filterMap_cons_eq, List.append_eq_nil_iff, Option.toList_eq_nil_iff] at bodiless
      rw [List.foldl_cons, ih bodiless.2, parameters_applyOperationDirective, bodiless.1,
        filterMap_cons_eq, ← List.append_assoc]
      rfl

/-- A request body stays where it stands, and the last directive decides what it is. -/
theorem parameters_foldl_of_body (directives : List OperationDirective) {operation : Operation}
    {front back : List Parameter} {body : Parameter}
    (listed : operation.parameters = front ++ body :: back)
    (apart : ∀ parameter ∈ front, parameter.location ≠ .body)
    (named : body.name = "body" ∧ body.location = .body) :
    (directives.foldl (applyOperationDirective files source) operation).parameters =
      front ++ (directives.filterMap (·.body?)).getLast?.getD body ::
        (back ++ directives.filterMap (·.parameter?)) := by
  induction directives generalizing operation body back with
  | nil => rw [List.foldl_nil, listed, List.filterMap_nil, List.filterMap_nil, List.append_nil]; rfl
  | cons directive rest ih =>
      have next := parameters_applyOperationDirective files source operation directive
      rw [listed] at next
      rw [List.foldl_cons, filterMap_cons_eq OperationDirective.parameter?, List.filterMap_cons]
      cases sets : directive.body? with
      | none =>
          rw [sets, Option.elim_none, List.append_assoc, List.cons_append] at next
          rw [ih next named, List.append_assoc]
      | some parameter =>
          have named' := OperationDirective.eq_body_of_body? sets
          -- Nothing in front of the body has its location, so the new one takes its place.
          have absent : ∀ existing ∈ front, existing.sameSlot parameter = false := by
            intro existing member
            simp [Parameter.sameSlot, named'.2, apart existing member]
          have same : body.sameSlot parameter = true := by
            simp [Parameter.sameSlot, named, named']
          rw [sets, Option.elim_some, Operation.putParameter_of_first absent same,
            List.append_assoc, List.cons_append] at next
          rw [ih next named', List.append_assoc, List.getLast?_cons]
          rfl

/-- The parameters before the first request body, the last request body and the parameters after the
    first. -/
theorem parameters_foldl_of_first {before after : List OperationDirective}
    {first : OperationDirective} {body : Parameter} {operation : Operation}
    (fresh : operation.parameters = []) (bodiless : before.filterMap (·.body?) = [])
    (sets : first.body? = some body)
    (apart : ∀ directive ∈ before, ∀ parameter ∈ directive.parameter?, parameter.location ≠ .body) :
    ((before ++ first :: after).foldl (applyOperationDirective files source) operation).parameters =
      before.filterMap (·.parameter?) ++
        (after.filterMap (·.body?)).getLast?.getD body :: after.filterMap (·.parameter?) := by
  have named := OperationDirective.eq_body_of_body? sets
  have front : ∀ parameter ∈ before.filterMap (·.parameter?), parameter.location ≠ .body := by
    intro parameter member
    obtain ⟨directive, listed, adds⟩ := List.mem_filterMap.1 member
    exact apart directive listed parameter adds
  have absent : ∀ parameter ∈ before.filterMap (·.parameter?), parameter.sameSlot body = false := by
    intro parameter member
    simp [Parameter.sameSlot, named.2, front parameter member]
  have reached : (applyOperationDirective files source
      (before.foldl (applyOperationDirective files source) operation) first).parameters =
        before.filterMap (·.parameter?) ++ body :: [] := by
    rw [parameters_applyOperationDirective, parameters_foldl_of_no_body files source bodiless, fresh,
      List.nil_append, sets, OperationDirective.parameter?_of_body? sets, Option.elim_some,
      Operation.putParameter_of_absent absent]
    exact List.append_nil _
  rw [List.foldl_append, List.foldl_cons]
  exact parameters_foldl_of_body files source after reached front named

end Fold

section Function

variable (files : ExampleFiles) (source : Path) (function : FunctionDeclaration)

/-- Either no directive sets a request body, or one does so first. -/
theorem bodiless_or_first (directives : List OperationDirective) :
    directives.filterMap (·.body?) = [] ∨
      ∃ before first body after, directives = before ++ first :: after ∧
        before.filterMap (·.body?) = [] ∧ first.body? = some body := by
  induction directives with
  | nil => exact Or.inl rfl
  | cons directive rest ih =>
      cases sets : directive.body? with
      | some body => exact Or.inr ⟨[], directive, body, rest, rfl, rfl, sets⟩
      | none =>
          rcases ih with bodiless | ⟨before, first, body, after, rfl, bodiless, found⟩
          · exact Or.inl (by rw [List.filterMap_cons_none sets, bodiless])
          · exact Or.inr ⟨directive :: before, first, body, after, rfl,
              by rw [List.filterMap_cons_none sets, bodiless], found⟩

/-- A directive does not put a parameter into the body. -/
theorem location_ne_body {docs : Documentation} {directive : OperationDirective}
    (member : directive ∈ operationDirectives docs) :
    ∀ parameter ∈ directive.parameter?, parameter.location ≠ .body := by
  have fits := fits_of_mem_operationDirectives member
  rintro parameter adds
  cases directive with
  | parameter name location typed description =>
      cases adds
      exact fits.2.1
  | _ => cases adds

/-- The parameters before the first request body, the last request body and the parameters after the
    first. -/
theorem parameters_of_first {before after : List OperationDirective} {first : OperationDirective}
    {body : Parameter} (listed : operationDirectives function.docs = before ++ first :: after)
    (bodiless : before.filterMap (·.body?) = []) (sets : first.body? = some body) :
    (buildOperation files source function).parameters =
      before.filterMap (·.parameter?) ++
        (after.filterMap (·.body?)).getLast?.getD body :: after.filterMap (·.parameter?) := by
  rw [buildOperation, listed]
  refine parameters_foldl_of_first files source rfl bodiless sets fun directive member => ?_
  exact location_ne_body (listed ▸ List.mem_append_left _ member)

/-- The parameters that directives add stand elsewhere than in the body. -/
theorem location_of_mem_parameters {docs : Documentation} {parameter : Parameter}
    (member : parameter ∈ (operationDirectives docs).filterMap (·.parameter?)) :
    parameter.location ≠ .body := by
  obtain ⟨directive, listed, adds⟩ := List.mem_filterMap.1 member
  exact location_ne_body listed parameter adds

/-- The request body among parameters of the path and the query. -/
theorem filter_location {front back : List Parameter} {body : Parameter}
    (apart : ∀ parameter ∈ front ++ back, parameter.location ≠ .body)
    (named : body.location = .body) :
    (front ++ body :: back).filter (·.location ≠ .body) = front ++ back ∧
      (front ++ body :: back).filter (·.location = .body) = [body] := by
  rw [List.filter_append, List.filter_append, List.filter_cons_of_neg (by simp [named]),
    List.filter_cons_of_pos (by simp [named]), ← List.filter_append, List.filter_eq_self.2,
    List.filter_eq_nil_iff.2, List.filter_eq_nil_iff.2]
  · exact ⟨rfl, rfl⟩
  · simpa using fun parameter member => apart parameter (List.mem_append_right _ member)
  · simpa using fun parameter member => apart parameter (List.mem_append_left _ member)
  · simpa using apart

/-- The parameters of the path and the query are those of the directives, and the request body is the
    one that was set last. -/
theorem partition_parameters :
    let directives := operationDirectives function.docs
    let parameters := (buildOperation files source function).parameters
    parameters.filter (·.location ≠ .body) = directives.filterMap (·.parameter?) ∧
    parameters.filter (·.location = .body) = (directives.filterMap (·.body?)).getLast?.toList := by
  intro directives parameters
  have apart : ∀ parameter ∈ directives.filterMap (·.parameter?), parameter.location ≠ .body :=
    fun _ => location_of_mem_parameters
  rcases bodiless_or_first directives with bodiless | ⟨before, first, body, after, split, none, sets⟩
  · have added : parameters = directives.filterMap (·.parameter?) :=
      parameters_foldl_of_no_body files source bodiless _
    rw [added, bodiless, List.filter_eq_self.2 (by simpa using apart),
      List.filter_eq_nil_iff.2 (by simpa using apart)]
    exact ⟨rfl, rfl⟩
  · have last : (directives.filterMap (·.body?)).getLast? =
        some ((after.filterMap (·.body?)).getLast?.getD body) := by
      rw [split, List.filterMap_append, none, List.nil_append, List.filterMap_cons_some sets,
        List.getLast?_cons]
    obtain ⟨setting, _, lastSets⟩ := List.mem_filterMap.1 (List.mem_of_getLast? last)
    have added : directives.filterMap (·.parameter?) =
        before.filterMap (·.parameter?) ++ after.filterMap (·.parameter?) := by
      rw [split, List.filterMap_append,
        List.filterMap_cons_none (OperationDirective.parameter?_of_body? sets)]
    have listed : parameters = _ := parameters_of_first files source function split none sets
    rw [listed, last, added]
    rw [added] at apart
    exact filter_location apart (OperationDirective.eq_body_of_body? lastSets).2

/-- The tags of an operation are those of its directives in order. -/
theorem tags_buildOperation :
    (buildOperation files source function).tags =
      (operationDirectives function.docs).filterMap (·.tag?) :=
  tags_foldl files source _ _

/-- The media types that an operation consumes are those of its directives for request bodies. -/
theorem consumes_buildOperation :
    (buildOperation files source function).consumes =
      ((operationDirectives function.docs).filterMap (·.consumed?)).eraseDups :=
  consumes_foldl files source _ rfl

/-- The media types that an operation produces are those of its directives for the contents of
    responses. -/
theorem produces_buildOperation :
    (buildOperation files source function).produces =
      ((operationDirectives function.docs).filterMap (·.produced?)).eraseDups :=
  produces_foldl files source _ rfl

end Function

/-! ### Directives of one kind

The results are put in terms of the directives of one kind, in the order of the block, because this is
what a change to the other lines leaves as it is. -/

/-- The directives of one kind in a documentation block. -/
def directivesOf (docs : Documentation) (kind : DirectiveKind) : List OperationDirective :=
  (operationDirectives docs).filter (·.aim.kind = kind)

section OneKind

variable {β : Type} {write : OperationDirective → Option β} {kind : DirectiveKind}
  (own : ∀ directive value, write directive = some value → directive.aim.kind = kind)
include own

/-- What only directives of one kind write is written by the directives of this kind. -/
theorem filterMap_directivesOf (docs : Documentation) :
    (directivesOf docs kind).filterMap write = (operationDirectives docs).filterMap write := by
  rw [directivesOf, List.filterMap_filter]
  congr 1
  funext directive
  cases writes : write directive with
  | none => exact ite_self none
  | some value => exact if_pos (decide_eq_true (own directive value writes))

/-- What directives of one kind write is the same for two blocks with the same directives of the kind.
    -/
theorem filterMap_congr_of_kind {docs other : Documentation}
    (same : directivesOf other kind = directivesOf docs kind) :
    (operationDirectives other).filterMap write = (operationDirectives docs).filterMap write := by
  rw [← filterMap_directivesOf own, same, filterMap_directivesOf own]

/-- What the last directive of its kind writes is written last. -/
theorem getLast?_of_directivesOf {docs : Documentation} {last : OperationDirective} {value : β}
    (ends : (directivesOf docs kind).getLast? = some last) (writes : write last = some value) :
    ((operationDirectives docs).filterMap write).getLast? = some value := by
  obtain ⟨front, split⟩ := List.getLast?_eq_some_iff.1 ends
  rw [← filterMap_directivesOf own, split, List.filterMap_append, List.filterMap_cons_some writes,
    List.filterMap_nil, List.getLast?_concat]

end OneKind

/-- The tags of an operation are those of its directives, in order. Its parameters of the path and the
    query are those of its directives, in order, and those of the path are required. It has a request
    body if a directive sets one; its schema, whether it is required, and its description are as the last
    of them says, and it stands where the first does. The media types are those of the directives, each
    where it first occurs. Directives of other kinds change none of the tags and media types. -/
theorem parameters_tags_media (files : ExampleFiles) (source : Path)
    (function : FunctionDeclaration) :
    let directives := operationDirectives function.docs
    let operation := buildOperation files source function
    operation.tags = directives.filterMap (·.tag?) ∧
    operation.parameters.filter (·.location ≠ .body) = directives.filterMap (·.parameter?) ∧
    (∀ parameter ∈ directives.filterMap (·.parameter?),
      parameter.required = true ↔ parameter.location = .path) ∧
    operation.parameters.filter (·.location = .body) =
      (directives.filterMap (·.body?)).getLast?.toList ∧
    (∀ mediaType schemaId required description,
      (directivesOf function.docs .requestBody).getLast? =
          some (.requestBody mediaType schemaId required description) →
        ∃ body, operation.parameters.filter (·.location = .body) = [body] ∧ body.name = "body" ∧
          body.schema.bind Schema.referenceTarget? = some schemaId ∧ body.required = required ∧
          body.description = description ∧ body.type? = none ∧ body.format = none) ∧
    (∀ before first after body, directives = before ++ first :: after →
      before.filterMap (·.body?) = [] → first.body? = some body →
        operation.parameters = before.filterMap (·.parameter?) ++
          (after.filterMap (·.body?)).getLast?.getD body :: after.filterMap (·.parameter?)) ∧
    operation.consumes = (directives.filterMap (·.consumed?)).eraseDups ∧
    operation.produces = (directives.filterMap (·.produced?)).eraseDups ∧
    ∀ (otherFiles : ExampleFiles) (otherSource : Path) (other : FunctionDeclaration),
      let otherOperation := buildOperation otherFiles otherSource other
      (directivesOf other.docs .tag = directivesOf function.docs .tag →
        otherOperation.tags = operation.tags) ∧
      (directivesOf other.docs .requestBody = directivesOf function.docs .requestBody →
        otherOperation.consumes = operation.consumes) ∧
      (directivesOf other.docs .responseContent = directivesOf function.docs .responseContent →
        otherOperation.produces = operation.produces) := by
  intro directives operation
  obtain ⟨unlocated, located⟩ := partition_parameters files source function
  refine ⟨?_, unlocated, ?_, located, ?_, ?_, ?_, ?_, ?_⟩
  · exact tags_buildOperation files source function
  · intro parameter member
    obtain ⟨directive, _, adds⟩ := List.mem_filterMap.1 member
    cases directive with
    | parameter name location typed description =>
        cases adds
        exact decide_eq_true_iff
    | _ => cases adds
  · intro mediaType schemaId required description ends
    have last := getLast?_of_directivesOf OperationDirective.kind_of_body? ends rfl
    rw [last] at located
    exact ⟨_, located, rfl, Schema.referenceTarget?_referTo schemaId, rfl, rfl, rfl, rfl⟩
  · intro before first after body
    exact parameters_of_first files source function
  · exact consumes_buildOperation files source function
  · exact produces_buildOperation files source function
  · intro otherFiles otherSource other otherOperation
    refine ⟨fun same => ?_, fun same => ?_, fun same => ?_⟩
    · rw [tags_buildOperation, tags_buildOperation,
        filterMap_congr_of_kind OperationDirective.kind_of_tag? same]
    · rw [consumes_buildOperation, consumes_buildOperation,
        filterMap_congr_of_kind OperationDirective.kind_of_consumed? same]
    · rw [produces_buildOperation, produces_buildOperation,
        filterMap_congr_of_kind OperationDirective.kind_of_produced? same]

/-- A function that sets its request body before and after a parameter of the path. -/
def revised : FunctionDeclaration where
  name := "update"
  docs := ⟨["openapi:requestBody text/xml Draft false",
    "openapi:parameter id path integer/int64 \"Key\"", "openapi:requestBody text/xml User",
    "openapi:tag users"]⟩

/-- The request body that was set last stands where the first one was set. -/
theorem parameters_tags_media_revised :
    let operation := buildOperation (fun _ => none) ⟨"api.rs"⟩ revised
    operation.parameters =
      [{ name := "body", location := .body, required := true,
         schema := some { reference := some "#/definitions/User" } },
       { name := "id", location := .path, description := some "Key", required := true,
         type? := some "integer", format := some "int64" }] ∧
    (operation.parameters.filter (·.location = .body)).map
      (·.schema.bind Schema.referenceTarget?) = [some "User"] ∧
    operation.tags = ["users"] ∧ operation.consumes = ["text/xml"] := by
  intro operation
  have own : operationDirectives revised.docs =
      [.requestBody "text/xml" "Draft" false none,
        .parameter "id" .path ⟨"integer", some "int64"⟩ (some "Key"),
        .requestBody "text/xml" "User" true none, .tag "users"] := by decide +kernel
  obtain ⟨tags, _, _, _, last, first, consumes, _⟩ :=
    parameters_tags_media (fun _ => none) ⟨"api.rs"⟩ revised
  refine ⟨?_, ?_, ?_, ?_⟩
  · exact first [] (.requestBody "text/xml" "Draft" false none) _ _ own rfl rfl
  · have ends : (directivesOf revised.docs .requestBody).getLast? =
        some (.requestBody "text/xml" "User" true none) := by
      rw [directivesOf, own]
      rfl
    obtain ⟨body, single, _, refers, _⟩ := last _ _ _ _ ends
    rw [single, List.map_singleton, refers]
  · rw [tags, own]
    rfl
  · rw [consumes, own]
    rfl

end Generation

end SwaggerDocs
