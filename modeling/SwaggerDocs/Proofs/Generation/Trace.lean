/-
Module: SwaggerDocs.Proofs.Generation.Trace
Purpose: The trace of a component depends on its declaration alone: not on the policy, and not on what
  was worked out before in the same context. What a registry holds after a run over all declarations
  is therefore read off one list of registrations.
Main exports: Event.Plain, component_events_plain, component_texts, Generator.generate_one_trace
-/
import SwaggerDocs.Proofs.Generation.Nodes
import SwaggerDocs.Proofs.Generation.Registrations
import SwaggerDocs.Proofs.Generation.Simulation

namespace SwaggerDocs

open Generation

/-- An event other than a report about the registry: those are made by registrations. -/
def Event.Plain : Event → Prop
  | .register _ _ => True
  | .warn warning => warning.isKeptFirst = false

/-- A registration is a plain event. -/
theorem Event.plain_of_register {event : Event} {id : String} {schema : Schema}
    (registers : event = .register id schema) : event.Plain := by
  rw [registers]
  trivial

namespace Generation

/-! ### The warnings of a run

A run has warnings of its own, and a registry adds reports about schemas that it does not keep. Here the
first kind is told from the second, so that the reports can be counted. -/

section Plain

variable {graph : Declarations} {active : List String} {file : FileDeclarations}

/-- The events of a field are those of its uses and plain warnings. -/
theorem contribution_plain (type : TypeUse) (name : String) (embedded : Bool)
    (docs : Documentation)
    (uses : ∀ use ∈ type.use? embedded, ∀ event ∈ (useOutcome graph active file use).events,
      event.Plain) :
    ∀ event ∈ (contribution graph active file name embedded docs type).events, event.Plain := by
  induction type generalizing name embedded docs with
  | primitive kind =>
      rw [contribution]
      intro event member
      dsimp only at member
      split at member
      · rw [List.mem_singleton.1 member]
        rfl
      · cases member
  | named type =>
      rw [contribution]
      cases known : wellKnownSchema? type with
      | some schema => simp
      | none => exact uses _ (TypeUse.use?_named_eq_some.2 ⟨known, rfl⟩)
  | sequence item ih =>
      rw [contribution]
      exact ih itemKey false _ uses
  | mapping value ih =>
      rw [contribution]
      exact ih itemKey false _ uses
  | indirect inner ih =>
      rw [contribution]
      exact ih name embedded docs uses
  | any => simp [contribution]
  | unsupported kind => simp [contribution, Event.Plain, Warning.isKeptFirst]

/-- The events of the fields of a struct are plain if those of their uses are. -/
theorem fieldProperties_plain (fields : List Field) (properties : Entries String Schema)
    (uses : ∀ use ∈ fields.filterMap Field.use?,
      ∀ event ∈ (useOutcome graph active file use).events, event.Plain) :
    ∀ event ∈ (fieldProperties graph active file properties fields).events, event.Plain := by
  induction fields generalizing properties with
  | nil => simp [fieldProperties]
  | cons field rest ih =>
      rw [filterMap_cons_eq] at uses
      have later := fun properties =>
        ih properties fun use member => uses use (List.mem_append_right _ member)
      rw [fieldProperties]
      split
      · rename_i contributes
        intro event member
        rcases List.mem_append.1 member with first | rest
        · refine contribution_plain field.type _ _ _ (fun use member => ?_) event first
          refine uses use (List.mem_append_left _ ?_)
          rw [Field.use?, if_pos contributes]
          exact Option.mem_toList.2 member
        · exact later _ event rest
      · exact later properties

theorem shapeSchema_plain_of_uses (decl : TypeDeclaration)
    (uses : ∀ use ∈ decl.uses, ∀ event ∈ (useOutcome graph active file use).events,
      event.Plain) :
    ∀ event ∈ (shapeSchema graph active file decl).events, event.Plain := by
  rw [TypeDeclaration.uses] at uses
  rw [shapeSchema]
  cases shape : decl.shape with
  | struct fields =>
      rw [shape] at uses
      exact fieldProperties_plain fields [] uses
  | «alias» target =>
      rw [shape] at uses
      exact contribution_plain target _ _ _ fun use member => uses use (Option.mem_toList.2 member)
  | enumeration names => simp
  | unmappable reason => simp [Event.Plain, Warning.isKeptFirst]

/-- What is done with the schema of a used type gives plain events. -/
theorem useOf_plain (name : String) (embedded : Bool) (schema : Option Schema)
    (cyclic : List String) : ∀ event ∈ (useOf name embedded schema cyclic).2, event.Plain := by
  unfold useOf
  intro event member
  split at member
  · cases member
  · split at member
    · dsimp only at member
      split at member
      · exact Event.plain_of_register (List.mem_singleton.1 member)
      · cases member
    · exact Event.plain_of_register (List.mem_singleton.1 member)

/-- No run of its own reports that a schema was not kept. -/
theorem shapeSchema_plain (graph : Declarations) (active : List String) (file : FileDeclarations)
    (decl : TypeDeclaration) :
    ∀ event ∈ (shapeSchema graph active file decl).events, event.Plain := by
  induction active, file, decl using uses_induction graph with
  | step active file decl ih =>
      refine shapeSchema_plain_of_uses decl fun use used event member => ?_
      cases found : graph.findType? use.type.name file.path with
      | none =>
          rw [useOutcome, namedUse_of_missing found] at member
          rw [List.mem_singleton.1 member]
          rfl
      | some place =>
          obtain ⟨targetFile, target⟩ := place
          by_cases busy : target.name ∈ active
          · rw [useOutcome, namedUse_of_active found busy] at member
            cases flat : use.flattened with
            | true =>
                rw [flat] at member
                rw [List.mem_singleton.1 member]
                rfl
            | false =>
                rw [flat] at member
                cases member
          · rw [useOutcome, namedUse_of_fresh found busy] at member
            rcases List.mem_append.1 member with inner | own
            · exact ih use used targetFile target found busy event inner
            · exact useOf_plain _ _ _ _ event own

end Plain

/-- No event of a component is the report that a schema was not kept: only a registry gives it. -/
theorem component_events_plain (graph : Declarations) (file : FileDeclarations)
    (decl : TypeDeclaration) : ∀ event ∈ (component graph file decl).events, event.Plain := by
  have plain : ∀ event ∈ (typeSchema graph file decl).events, event.Plain :=
    shapeSchema_plain graph [decl.name] file decl
  intro event member
  cases declared : decl.docs.componentId? with
  | none =>
      rw [component_of_none declared] at member
      cases member
  | some id =>
      cases value : (typeSchema graph file decl).value with
      | none =>
          rw [component_of_unmapped declared value] at member
          exact plain event member
      | some schema =>
          rw [component_of_mapped declared value] at member
          rcases List.mem_append.1 member with inner | own
          · exact plain event inner
          · rw [registrations] at own
            rcases List.mem_append.1 own with named | published
            · split at named
              · exact Event.plain_of_register (List.mem_singleton.1 named)
              · cases named
            · exact Event.plain_of_register (List.mem_singleton.1 published)

/-! ### The payloads of generated schemas

Payloads come from directives of fields, which write texts. -/

/-- Payloads come from directives, whose texts are taken as they are. -/
theorem nodeInvariant_textPayloads : NodeInvariant fun _ => Schema.TextPayloads where
  mono _ text := text
  any _ := ⟨trivial, trivial⟩
  struct _ _ _ _ := ⟨trivial, trivial⟩
  enumeration _ _ _ := ⟨trivial, trivial⟩
  primitive _ _ := ⟨trivial, trivial⟩
  wellKnown _ _ := ⟨trivial, trivial⟩
  array _ _ := ⟨trivial, trivial⟩
  map _ _ := ⟨trivial, trivial⟩
  reference _ := ⟨trivial, trivial⟩
  described _ text := text
  directive directive text := by
    cases directive with
    | component id => exact text
    | «example» value => exact ⟨trivial, text.2⟩
    | format value => exact text
    | default value => exact ⟨text.1, trivial⟩

/-- The schemas that a component registers have texts as payloads. -/
theorem component_texts (graph : Declarations) (file : FileDeclarations) (decl : TypeDeclaration) :
    ∀ entry ∈ (component graph file decl).registrations, entry.2.Every Schema.TextPayloads :=
  (nodeInvariant_textPayloads.component_every graph file decl).2

/-! ### The registrations of several components

The trace of several calls is the list of what they register, call by call. It does not depend on the
policy or on the context. -/

/-- The registrations of declared types, one after another. -/
def traceOf (graph : Declarations) (calls : List (FileDeclarations × TypeDeclaration)) :
    List (String × Schema) :=
  calls.flatMap fun call => (component graph call.1 call.2).registrations

/-- A registration in the trace belongs to one of the calls. -/
theorem mem_traceOf {graph : Declarations} {calls : List (FileDeclarations × TypeDeclaration)}
    {entry : String × Schema} :
    entry ∈ traceOf graph calls ↔
      ∃ call ∈ calls, entry ∈ (component graph call.1 call.2).registrations := List.mem_flatMap

/-- The payloads in a trace are texts. -/
theorem traceOf_texts (graph : Declarations) (calls : List (FileDeclarations × TypeDeclaration)) :
    ∀ entry ∈ traceOf graph calls, entry.2.Every Schema.TextPayloads := by
  intro entry member
  obtain ⟨call, _, made⟩ := mem_traceOf.1 member
  exact component_texts graph call.1 call.2 entry made

/-- The registrations of runs one after another are those of each. -/
theorem filterMap_events (graph : Declarations)
    (calls : List (FileDeclarations × TypeDeclaration)) :
    (calls.flatMap fun call => (component graph call.1 call.2).events).filterMap
      Event.registration? = traceOf graph calls := by
  rw [traceOf, List.filterMap_flatMap]
  rfl

end Generation

namespace Registry

/-- A registry without schemas has no payloads. -/
theorem texts_empty (policy : RegistrationPolicy) : (empty policy).Texts := by
  intro id schema bound
  cases bound

end Registry

namespace Generator

variable (graph : Declarations)

/-- What is registered after a sequence of calls is what the registrations of its components make of
    the registry before it. -/
theorem registry_generateEach (calls : List (FileDeclarations × TypeDeclaration)) {ctx : Context}
    (idle : ctx.Idle) :
    (generateEach graph calls ctx).2.registry = ctx.registry.registerAll (traceOf graph calls) := by
  rw [generateEach_eq_replay graph calls idle]
  exact (Registry.replay_fst _ _).trans (congrArg _ (filterMap_events graph calls))

/-- From the start, the registry holds what the trace registers. -/
theorem registry_generateEach_start (policy : RegistrationPolicy)
    (calls : List (FileDeclarations × TypeDeclaration)) :
    (generateEach graph calls (Context.start policy)).2.registry =
      (Registry.empty policy).registerAll (traceOf graph calls) :=
  registry_generateEach graph calls (Context.idle_start policy)

/-- The same for a run over all declarations. -/
theorem registry_generateAll (policy : RegistrationPolicy) :
    (generateAll graph policy).registry =
      (Registry.empty policy).registerAll (traceOf graph graph.placedTypes) :=
  registry_generateEach_start graph policy graph.placedTypes

/-- Where registrations overwrite, a run ends with the last schema of each identifier in its trace. -/
theorem get?_generateAll_of_overwrite (id : String) :
    (generateAll graph .overwrite).registry.get? id =
      lastOf id (traceOf graph graph.placedTypes) := by
  rw [registry_generateAll, Registry.get?_registerAll_of_overwrite rfl (Registry.texts_empty _)
    (traceOf_texts graph _)]
  exact Option.or_none

/-- Where the first one wins, it ends with the first schema. -/
theorem get?_generateAll_of_firstWins (id : String) :
    (generateAll graph .firstWins).registry.get? id =
      firstOf id (traceOf graph graph.placedTypes) := by
  rw [registry_generateAll, Registry.get?_registerAll_of_firstWins rfl]
  rfl

/-- An identifier is defined, whatever the policy, if a component registers it. -/
theorem mem_ids_generateAll (policy : RegistrationPolicy) {id : String} :
    id ∈ (generateAll graph policy).registry.ids ↔
      ∃ place ∈ graph.placedTypes, (component graph place.1 place.2).Registers id := by
  rw [Registry.mem_ids, registry_generateAll, Registry.contains_registerAll]
  constructor
  · rintro (old | ⟨schema, member⟩)
    · cases old
    · obtain ⟨place, placed, made⟩ := mem_traceOf.1 member
      exact ⟨place, placed, schema, made⟩
  · rintro ⟨place, placed, schema, made⟩
    exact Or.inr ⟨schema, mem_traceOf.2 ⟨place, placed, made⟩⟩

open scoped Classical in
/-- Then there is one warning for each registration in the trace that differs from what is kept, in
    their order. -/
theorem keptFirst_generateAll :
    (generateAll graph .firstWins).warnings.filter Warning.isKeptFirst =
      ((traceOf graph graph.placedTypes).filter fun entry =>
        (generateAll graph .firstWins).registry.get? entry.1 ≠ some entry.2).map
          fun entry => .keptFirst entry.1 := by
  rw [generateAll_eq_replay, ← filterMap_events]
  refine Registry.keptFirst_replay rfl (Registry.texts_empty _) ?_ ?_
  · rw [filterMap_events]
    exact traceOf_texts graph _
  · intro warning member
    obtain ⟨place, _, made⟩ := List.mem_flatMap.1 member
    exact component_events_plain graph place.1 place.2 _ made

/-- To work out all declared types once more in the same context leaves the registry as it is. -/
theorem registry_generateEach_again (policy : RegistrationPolicy)
    (calls : List (FileDeclarations × TypeDeclaration)) :
    let once := (generateEach graph calls (Context.start policy)).2
    (generateEach graph calls once).2.registry = once.registry := by
  intro once
  have idle : once.Idle := idle_generateEach graph calls (Context.idle_start policy)
  rw [registry_generateEach graph calls idle, registry_generateEach_start]
  exact Registry.registerAll_again trivial (Registry.texts_empty policy) (traceOf_texts graph calls)

open scoped Classical in
/-- Working out a component answers a value and takes steps that depend on the declarations alone:
    whatever the policy and the earlier calls, it makes the same registrations and leaves no name
    active or cyclic. So both policies define the same identifiers from one list of registrations;
    one keeps the last schema of each, the other the first, and reports each registration that
    differs from it. A second run over all declared types changes no definition. -/
theorem generate_one_trace :
    (∀ (policy : RegistrationPolicy) (calls : List (FileDeclarations × TypeDeclaration))
        (file : FileDeclarations) (decl : TypeDeclaration),
      let before := (generateEach graph calls (Context.start policy)).2
      let after := (generate graph file decl before).2
      let made := component graph file decl
      generate graph file decl before = (made.value, before.replay made.events) ∧
        after.registry = before.registry.registerAll made.registrations ∧
          after.active = [] ∧ after.cyclic = []) ∧
    (let trace := traceOf graph graph.placedTypes
      let overwritten := generateAll graph .overwrite
      let kept := generateAll graph .firstWins
      (∀ id, id ∈ overwritten.registry.ids ↔ id ∈ kept.registry.ids) ∧
        (∀ id, overwritten.registry.get? id = lastOf id trace) ∧
          (∀ id, kept.registry.get? id = firstOf id trace) ∧
            kept.warnings.filter Warning.isKeptFirst =
              (trace.filter fun entry => kept.registry.get? entry.1 ≠ some entry.2).map
                fun entry => .keptFirst entry.1) ∧
      ∀ policy, let once := generateAll graph policy
        (generateEach graph graph.placedTypes once).2.registry = once.registry := by
  refine ⟨?_, ⟨?_, ?_, ?_, ?_⟩, ?_⟩
  · intro policy calls file decl before after made
    -- Between two calls no name is active or cyclic, so earlier calls show in the registry only.
    have idle : before.Idle := idle_generateEach graph calls (Context.idle_start policy)
    have run : generate graph file decl before = (made.value, before.replay made.events) :=
      generate_eq_replay graph file decl idle
    have reached : after = before.replay made.events := congrArg Prod.snd run
    have settled : after.Idle := reached ▸ idle.replay made.events
    refine ⟨run, ?_, settled.active, settled.cyclic⟩
    rw [reached]
    exact Registry.replay_fst before.registry made.events
  · intro id
    rw [mem_ids_generateAll, mem_ids_generateAll]
  · exact get?_generateAll_of_overwrite graph
  · exact get?_generateAll_of_firstWins graph
  · exact keptFirst_generateAll graph
  · intro policy
    exact registry_generateEach_again graph policy graph.placedTypes

end Generator

end SwaggerDocs
