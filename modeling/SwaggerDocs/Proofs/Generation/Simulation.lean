/-
Module: SwaggerDocs.Proofs.Generation.Simulation
Purpose: The generator as it runs does what the outcomes of runs say. An outcome depends on the
  declarations and on the active names alone; the running generator also has a registry, warnings and
  the cyclic names of the calls around it. Its answers are the values of the outcomes, and it changes
  the rest by replaying their events and adding their cyclic names.
Main exports: Records, Follows, Context.Balanced, usesFollow, Context.Idle,
  Generator.generate_eq_replay, Generator.generateEach_eq_replay
-/
import SwaggerDocs.Generation.Generator
import SwaggerDocs.Proofs.Generation.Uses

namespace SwaggerDocs

open Generation

namespace Registry

/-- Events in two parts are replayed one part after the other. -/
theorem replay_append (registry : Registry) (first later : List Event) :
    registry.replay (first ++ later) =
      (((registry.replay first).1.replay later).1,
        (registry.replay first).2 ++ ((registry.replay first).1.replay later).2) := by
  induction first generalizing registry with
  | nil => rfl
  | cons event rest ih => simp only [List.cons_append, replay, ih, List.append_assoc]

end Registry

/-- A context differs from an earlier one by the events and the cyclic names of a run. The active
    names are left open. -/
structure Records (before after : Context) (events : List Event) (cyclic : List String) : Prop where
  registry : after.registry = (before.registry.replay events).1
  warnings : after.warnings = before.warnings ++ (before.registry.replay events).2
  cyclic : ∀ name, name ∈ after.cyclic ↔ name ∈ before.cyclic ∨ name ∈ cyclic

namespace Records

variable {before reached after : Context} {first later : List Event} {names others : List String}

/-- A run that does nothing records nothing. -/
theorem refl (ctx : Context) : Records ctx ctx [] [] where
  registry := rfl
  warnings := by simp [Registry.replay]
  cyclic := by simp

/-- Two runs in a row record what each of them does. -/
theorem trans (one : Records before reached first names) (two : Records reached after later others) :
    Records before after (first ++ later) (names ++ others) where
  registry := by rw [two.registry, one.registry, Registry.replay_append]
  warnings := by
    rw [two.warnings, one.warnings, one.registry, Registry.replay_append, List.append_assoc]
  cyclic name := by rw [two.cyclic, one.cyclic, List.mem_append, or_assoc]

theorem warn (ctx : Context) (warning : Warning) :
    Records ctx (ctx.warn warning) [.warn warning] [] where
  registry := rfl
  warnings := by simp [Context.warn, Registry.replay, Registry.step]
  cyclic := by simp [Context.warn]

theorem register (ctx : Context) (id : String) (schema : Schema) :
    Records ctx (ctx.register id schema) [.register id schema] [] where
  registry := rfl
  warnings := by simp [Context.register, Registry.replay, Registry.step]
  cyclic := by simp [Context.register]

/-- Marking a name as cyclic is no event, but is recorded. -/
theorem mark (ctx : Context) (name : String) : Records ctx (ctx.mark name) [] [name] where
  registry := rfl
  warnings := by simp [Context.mark, Registry.replay]
  cyclic other := by rw [Context.mark, List.mem_insert_iff, List.mem_singleton, or_comm]

/-- A name that was not cyclic before a run is taken back after it. -/
theorem unmark {name : String} (fresh : name ∉ before.cyclic)
    (run : Records before after first names) :
    Records before (after.unmark name) first (names.filter (· ≠ name)) where
  registry := run.registry
  warnings := run.warnings
  cyclic other := by
    simp only [Context.unmark, List.mem_filter, run.cyclic, decide_eq_true_eq]
    constructor
    · rintro ⟨old | new, different⟩
      · exact Or.inl old
      · exact Or.inr ⟨new, different⟩
    · rintro (old | ⟨new, different⟩)
      · exact ⟨Or.inl old, ne_of_mem_of_not_mem old fresh⟩
      · exact ⟨Or.inr new, different⟩

/-- Whether a name is active has no part in what a run records. -/
theorem of_enter_leave {name : String} (run : Records (before.enter name) after first names) :
    Records before (after.leave name) first names where
  registry := run.registry
  warnings := run.warnings
  cyclic := run.cyclic

end Records

/-- Only active names are cyclic. -/
def Context.Balanced (ctx : Context) : Prop := ∀ name ∈ ctx.cyclic, name ∈ ctx.active

/-- Entering a type adds an active name and so keeps the balance. -/
theorem Context.Balanced.enter {ctx : Context} (balanced : ctx.Balanced) (name : String) :
    (ctx.enter name).Balanced := fun other member =>
  List.mem_insert_of_mem (balanced other member)

/-- A run that restores the active names keeps the balance if it marks only names that were active when
    it began. -/
theorem Records.balanced {before after : Context} {events : List Event} {names : List String}
    (run : Records before after events names) (balanced : before.Balanced)
    (restored : after.active = before.active) (within : ∀ name ∈ names, name ∈ before.active) :
    after.Balanced := by
  intro name member
  rw [restored]
  rcases (run.cyclic name).1 member with old | new
  · exact balanced name old
  · exact within name new

/-- A call that started at a context has the answer and the effects of an outcome. -/
structure Follows {α : Type} {names : List String} (before : Context) (run : Returned names α)
    (outcome : Outcome α) : Prop where
  answer : run.answer = outcome.value
  records : Records before run.context outcome.events outcome.cyclic

namespace Generation

/-- The uses of named types do what their outcomes say as long as the given names are active. This is
    what the other calls are reduced to. -/
def UsesFollow (graph : Declarations) (active : List String) : Prop :=
  ∀ file embedded type (ctx : Context), ctx.active = active → ctx.Balanced →
    Follows ctx (Generator.namedUse graph file embedded type ctx)
      (namedUse graph active file embedded type)

/-- The schema of an item is read off what the item would contribute as a field. -/
theorem elementSchema_follows {graph : Declarations} {file : FileDeclarations} {type : TypeUse}
    {ctx : Context} {outcome : Outcome (Entries String Schema)}
    (made : Follows ctx
      (Generator.contribution graph file itemKey false Documentation.empty type ctx) outcome) :
    Follows ctx (Generator.elementSchema graph file type ctx)
      { outcome with value := onlySchema itemKey outcome.value } := by
  rw [Generator.elementSchema]
  exact ⟨by simp only [made.answer], made.records⟩

/-- Working out a field leaves only active names cyclic, if they were before. -/
theorem balanced_contribution {graph : Declarations} {file : FileDeclarations} {name : String}
    {embedded : Bool} {docs : Documentation} {type : TypeUse} {ctx : Context}
    (made : Follows ctx (Generator.contribution graph file name embedded docs type ctx)
      (contribution graph ctx.active file name embedded docs type)) (balanced : ctx.Balanced) :
    (Generator.contribution graph file name embedded docs type ctx).context.Balanced := by
  refine made.records.balanced balanced (Returned.active_eq _) ?_
  intro name member
  rw [contribution_cyclic] at member
  obtain ⟨use, _, member⟩ := List.mem_flatMap.1 member
  exact cyclic_useOutcome_subset_active name member

section Calls

variable {graph : Declarations} {active : List String} (uses : UsesFollow graph active)
include uses

/-- A field is worked out as its outcome says. Wrapped types are taken by induction, and named ones are
    left to the uses. -/
theorem contribution_follows (file : FileDeclarations) (type : TypeUse) (name : String)
    (embedded : Bool) (docs : Documentation) (ctx : Context) (same : ctx.active = active)
    (balanced : ctx.Balanced) :
    Follows ctx (Generator.contribution graph file name embedded docs type ctx)
      (contribution graph active file name embedded docs type) := by
  induction type generalizing name embedded docs with
  | primitive kind =>
      rw [Generator.contribution, contribution]
      refine ⟨rfl, ?_⟩
      dsimp only
      split
      · exact Records.warn _ _
      · exact Records.refl _
  | named type =>
      rw [Generator.contribution, contribution]
      cases wellKnownSchema? type with
      | some schema => exact ⟨rfl, Records.refl _⟩
      | none =>
          have use := uses file embedded type ctx same balanced
          refine ⟨(congrArg (Generator.resolved name docs) use.answer).trans ?_, use.records⟩
          obtain ⟨value, cyclic, events⟩ := namedUse graph active file embedded type
          cases value <;> rfl
  | sequence item ih =>
      have element := elementSchema_follows (ih itemKey false Documentation.empty)
      rw [Generator.contribution, contribution]
      exact ⟨by simp only [element.answer], element.records⟩
  | mapping value ih =>
      have element := elementSchema_follows (ih itemKey false Documentation.empty)
      rw [Generator.contribution, contribution]
      exact ⟨by simp only [element.answer], element.records⟩
  | indirect inner ih =>
      rw [Generator.contribution, contribution]
      exact ih name embedded docs
  | any =>
      rw [Generator.contribution, contribution]
      exact ⟨rfl, Records.refl _⟩
  | unsupported kind =>
      rw [Generator.contribution, contribution]
      exact ⟨rfl, Records.warn _ _⟩

/-- The fields of a struct are followed one by one, each in the context that the earlier ones leave. -/
theorem fieldProperties_follows (file : FileDeclarations) (fields : List Field)
    (properties : Entries String Schema) (ctx : Context) (same : ctx.active = active)
    (balanced : ctx.Balanced) :
    Follows ctx (Generator.fieldProperties graph file properties fields ctx)
      (fieldProperties graph active file properties fields) := by
  induction fields generalizing properties ctx with
  | nil =>
      rw [Generator.fieldProperties, fieldProperties]
      exact ⟨rfl, Records.refl _⟩
  | cons field rest ih =>
      rw [Generator.fieldProperties, fieldProperties]
      split
      · subst same
        have first := contribution_follows uses file field.type field.propertyName field.embedded
          field.docs ctx rfl balanced
        have later := ih (properties.extend (contribution graph ctx.active file field.propertyName
          field.embedded field.docs field.type).value) _ (Returned.active_eq _)
          (balanced_contribution first balanced)
        refine ⟨?_, ?_⟩
        · simp only [first.answer, later.answer]
        · simp only [first.answer]
          exact first.records.trans later.records
      · exact ih properties ctx same balanced

/-- The shape of a declaration is followed if its uses are. -/
theorem shapeSchema_follows (file : FileDeclarations) (decl : TypeDeclaration) (ctx : Context)
    (same : ctx.active = active) (balanced : ctx.Balanced) :
    Follows ctx (Generator.shapeSchema graph file decl ctx)
      (shapeSchema graph active file decl) := by
  rw [Generator.shapeSchema, shapeSchema]
  cases decl.shape with
  | struct fields =>
      have made := fieldProperties_follows uses file fields [] ctx same balanced
      exact ⟨by simp only [made.answer], made.records⟩
  | «alias» target =>
      have made := contribution_follows uses file target decl.name false decl.docs ctx same balanced
      exact ⟨by simp only [made.answer], made.records⟩
  | enumeration names => exact ⟨rfl, Records.refl _⟩
  | unmappable reason => exact ⟨rfl, Records.warn _ _⟩

end Calls

/-- A declaration is followed from where it is entered to where it is left; in between its name is
    active. -/
theorem typeSchema_follows {graph : Declarations} {active : List String}
    {decl : TypeDeclaration} (uses : UsesFollow graph (decl.name :: active))
    (fresh : decl.name ∉ active) (file : FileDeclarations) (ctx : Context)
    (same : ctx.active = active) (balanced : ctx.Balanced) :
    Follows ctx (Generator.typeSchema graph file decl ctx)
      (shapeSchema graph (decl.name :: active) file decl) := by
  subst same
  have made := shapeSchema_follows uses file decl (ctx.enter decl.name)
    (Context.active_enter_of_fresh fresh) (balanced.enter decl.name)
  rw [Generator.typeSchema]
  exact ⟨made.answer, made.records.of_enter_leave⟩

/-- What follows on working out the type of a use. A type without schema leaves no cyclic name
    behind. -/
theorem settle_follows {before reached : Context} {events : List Event} {cyclic : List String}
    {name : String} {made : Option Schema} (embedded : Bool)
    (run : Records before reached events cyclic) (fresh : name ∉ before.cyclic)
    (plain : made = none → cyclic = []) :
    (Generator.settle name embedded made reached).1 = (useOf name embedded made cyclic).1 ∧
      Records before (Generator.settle name embedded made reached).2
        (events ++ (useOf name embedded made cyclic).2) (cyclic.filter (· ≠ name)) := by
  have unmarked := run.unmark fresh
  cases made with
  | none =>
      rw [plain rfl] at run ⊢
      exact ⟨rfl, run.trans (Records.refl _)⟩
  | some schema =>
      have registered := unmarked.trans (Records.register _ name schema)
      rw [List.append_nil] at registered
      have referred : name ∈ reached.cyclic ↔ name ∈ cyclic := by
        rw [run.cyclic]
        exact or_iff_right fresh
      cases embedded with
      | false => exact ⟨rfl, registered⟩
      | true =>
          refine ⟨rfl, ?_⟩
          by_cases member : name ∈ cyclic
          · simpa only [Generator.settle, useOf, List.contains_eq_mem, referred, member,
              decide_true, if_true] using registered
          · have kept : cyclic.filter (· ≠ name) = cyclic :=
              List.filter_eq_self.2 fun other h => by simpa using ne_of_mem_of_not_mem h member
            simpa only [Generator.settle, useOf, List.contains_eq_mem, referred, member, kept,
              decide_false, Bool.false_eq_true, if_false, if_true, List.append_nil] using run

/-- Uses follow their outcomes, whatever is active: each type that is worked out for a use adds its
    name to the active ones. -/
theorem usesFollow (graph : Declarations) (active : List String) : UsesFollow graph active := by
  induction measure : inactive graph active using Nat.strongRecOn generalizing active with
  | ind n ih =>
      subst measure
      intro file embedded type ctx same balanced
      subst same
      cases found : graph.findType? type.name file.path with
      | none =>
          rw [Generator.namedUse_of_missing embedded found, namedUse_of_missing found]
          exact ⟨rfl, Records.warn _ _⟩
      | some place =>
          obtain ⟨targetFile, target⟩ := place
          by_cases busy : target.name ∈ ctx.active
          · rw [Generator.namedUse_of_active embedded found busy, namedUse_of_active found busy]
            cases embedded with
            | true => exact ⟨rfl, Records.warn _ _⟩
            | false => exact ⟨rfl, Records.mark _ _⟩
          · have made := typeSchema_follows (ih _ (inactive_target_lt found busy) _ rfl) busy
              targetFile ctx rfl balanced
            have settled := settle_follows embedded made.records
              (fun member => busy (balanced _ member)) cyclic_eq_nil_of_value_eq_none
            obtain ⟨answer, context⟩ := Generator.namedUse_of_fresh embedded found busy
            rw [namedUse_of_fresh found busy]
            rw [made.answer] at answer context
            exact ⟨answer.trans settled.1, context ▸ settled.2⟩

end Generation

/-! ### Whole calls of the generator

Between two calls nothing is active and nothing is cyclic. From such a context a call comes back to one,
so that a run over all declarations is a replay of the events of its calls. -/

namespace Context

/-- A context between two calls: nothing is being worked out. -/
structure Idle (ctx : Context) : Prop where
  active : ctx.active = []
  cyclic : ctx.cyclic = []

/-- Where no name is cyclic, there is nothing to check. -/
theorem Idle.balanced {ctx : Context} (idle : ctx.Idle) : ctx.Balanced := by
  intro name member
  rw [idle.cyclic] at member
  cases member

/-- A run begins between calls. -/
theorem idle_start (policy : RegistrationPolicy) : (start policy).Idle := ⟨rfl, rfl⟩

/-- The context after the events of a run. -/
def replay (ctx : Context) (events : List Event) : Context :=
  { ctx with
    registry := (ctx.registry.replay events).1
    warnings := ctx.warnings ++ (ctx.registry.replay events).2 }

/-- A replay leaves the active and the cyclic names as they are. -/
theorem Idle.replay {ctx : Context} (idle : ctx.Idle) (events : List Event) :
    (ctx.replay events).Idle := ⟨idle.active, idle.cyclic⟩

/-- Events in two parts are replayed one part after the other. -/
theorem replay_append (ctx : Context) (first later : List Event) :
    ctx.replay (first ++ later) = (ctx.replay first).replay later := by
  simp only [replay, Registry.replay_append, List.append_assoc]

theorem replay_nil (ctx : Context) : ctx.replay [] = ctx := by
  simp [replay, Registry.replay]

/-- Between two idle contexts, a run without cyclic names is a replay of its events. -/
theorem eq_replay_of_records {before after : Context} {events : List Event} (idle : before.Idle)
    (run : Records before after events []) (restored : after.active = []) :
    after = before.replay events := by
  have settled : after.cyclic = [] := by
    apply List.eq_nil_iff_forall_not_mem.2
    intro name member
    have earlier := (run.cyclic name).1 member
    simp [idle.cyclic] at earlier
  obtain ⟨registry, active, cyclic, warnings⟩ := after
  obtain rfl : registry = _ := run.registry
  obtain rfl : warnings = _ := run.warnings
  obtain rfl : active = [] := restored
  obtain rfl : cyclic = [] := settled
  rw [replay, idle.active, idle.cyclic]

end Context

namespace Generator

/-- A declaration has the schema of its shape, worked out while its name is active. -/
theorem answer_typeSchema (graph : Declarations) (file : FileDeclarations) (decl : TypeDeclaration)
    (ctx : Context) : (typeSchema graph file decl ctx).answer =
      (shapeSchema graph file decl (ctx.enter decl.name)).answer := by
  rw [typeSchema]

/-- A type is worked out to a schema in every context, unless its shape has none. -/
theorem isSome_typeSchema (graph : Declarations) (file : FileDeclarations) (decl : TypeDeclaration)
    (ctx : Context) : (typeSchema graph file decl ctx).answer.isSome = decl.mappable := by
  rw [answer_typeSchema, shapeSchema, TypeDeclaration.mappable]
  cases decl.shape <;> rfl

/-- Publishing a component registers it under its identifier, and under its name if that is cyclic; then
    the name is taken back. -/
theorem publish_records {before reached : Context} {events : List Event} {cyclic : List String}
    {name : String} (id : String) (schema : Schema) (run : Records before reached events cyclic)
    (fresh : name ∉ before.cyclic) :
    Records before (publish name id schema reached)
      (events ++ registrations name id schema cyclic) (cyclic.filter (· ≠ name)) := by
  have unmarked := run.unmark fresh
  have referred : name ∈ reached.cyclic ↔ name ∈ cyclic := by
    rw [run.cyclic]
    exact or_iff_right fresh
  by_cases both : name ∈ cyclic ∧ id ≠ name
  · have named := unmarked.trans (Records.register _ name schema)
    have published := named.trans (Records.register _ id schema)
    simpa [publish, registrations, referred, both] using published
  · have published := unmarked.trans (Records.register _ id schema)
    simpa [publish, registrations, referred, both] using published

/-- Publishing does not touch the active names. -/
theorem active_publish (name id : String) (schema : Schema) (ctx : Context) :
    (publish name id schema ctx).active = ctx.active := by
  unfold publish
  dsimp only
  split <;> rfl

/-- Between other calls, working out a component answers its value and replays its events. -/
theorem generate_eq_replay (graph : Declarations) (file : FileDeclarations)
    (decl : TypeDeclaration) {ctx : Context} (idle : ctx.Idle) :
    generate graph file decl ctx =
      ((component graph file decl).value, ctx.replay (component graph file decl).events) := by
  rw [generate, component]
  cases decl.docs.componentId? with
  | none => rw [Context.replay_nil]
  | some id =>
      have made := typeSchema_follows (usesFollow graph [decl.name]) List.not_mem_nil file ctx
        idle.active idle.balanced
      have own : ∀ name ∈ (Generation.typeSchema graph file decl).cyclic, name = decl.name :=
        fun name member => List.mem_singleton.1 (cyclic_subset_active graph _ file decl name member)
      generalize Generator.typeSchema graph file decl ctx = run at made
      obtain ⟨answer, reached, restored⟩ := run
      obtain rfl : answer = (Generation.typeSchema graph file decl).value := made.answer
      have idleActive : reached.active = [] := restored.trans (by rw [idle.active]; rfl)
      cases value : (Generation.typeSchema graph file decl).value with
      | none =>
          have records := made.records
          rw [cyclic_eq_nil_of_value_eq_none value] at records
          simp only [value]
          exact congrArg (Prod.mk none) (Context.eq_replay_of_records idle records idleActive)
      | some schema =>
          have fresh : decl.name ∉ ctx.cyclic := by simp [idle.cyclic]
          have published := publish_records id schema made.records fresh
          have settled : (Generation.typeSchema graph file decl).cyclic.filter (· ≠ decl.name) = [] :=
            List.filter_eq_nil_iff.2 fun name member => by simp [own name member]
          have records := settled ▸ published
          simp only [value]
          exact congrArg (Prod.mk (some schema)) (Context.eq_replay_of_records idle records
            ((active_publish _ _ _ _).trans idleActive))

/-- A sequence of calls answers their values and replays their events one after another. -/
theorem generateEach_eq_replay (graph : Declarations)
    (calls : List (FileDeclarations × TypeDeclaration)) {ctx : Context} (idle : ctx.Idle) :
    generateEach graph calls ctx =
      (calls.map fun call => (component graph call.1 call.2).value,
        ctx.replay (calls.flatMap fun call => (component graph call.1 call.2).events)) := by
  induction calls generalizing ctx with
  | nil => rw [generateEach, List.flatMap_nil, Context.replay_nil, List.map_nil]
  | cons call rest ih =>
      obtain ⟨file, decl⟩ := call
      simp only [generateEach, generate_eq_replay graph file decl idle,
        ih (idle.replay (component graph file decl).events), List.map_cons, List.flatMap_cons,
        Context.replay_append]

/-- No call of a sequence leaves a name behind. -/
theorem idle_generateEach (graph : Declarations)
    (calls : List (FileDeclarations × TypeDeclaration)) {ctx : Context} (idle : ctx.Idle) :
    (generateEach graph calls ctx).2.Idle := by
  rw [generateEach_eq_replay graph calls idle]
  exact idle.replay _

/-- The run over all declared types replays the events of all components. -/
theorem generateAll_eq_replay (graph : Declarations) (policy : RegistrationPolicy) :
    generateAll graph policy = (Context.start policy).replay
      (graph.placedTypes.flatMap fun place => (component graph place.1 place.2).events) := by
  rw [generateAll, generateEach_eq_replay graph _ (Context.idle_start policy)]

end Generator

end SwaggerDocs
