/-
Module: SwaggerDocs.Proofs.Generation.Occurrences
Purpose: The calls that occur in a run over all declared types, with the contexts in which they are made.
  A call has its place in a stack of declarations that are being worked out: each one is used by the
  next outer one, and the outermost one is a component. The active names are those of the stack, and the
  names that a call has to resolve are names in the file of the innermost declaration.
Main exports: Generator.Occurs, Occurs.uses_subset, Occurs.working_eq, Occurs.balanced, Occurs.used
-/
import SwaggerDocs.Proofs.Generation.Reachability
import SwaggerDocs.Proofs.Generation.Simulation
import SwaggerDocs.Proofs.Generation.Termination

namespace SwaggerDocs

open Generation

namespace Generator

/-- The file in which a call resolves names. -/
def Call.file : Call → FileDeclarations
  | .type file _ | .shape file _ => file
  | .fields file _ _ => file
  | .contribution file _ _ _ _ => file
  | .element file _ => file
  | .named file _ _ => file

/-- The uses that a call has to resolve. -/
def Call.uses : Call → List Use
  | .type _ decl | .shape _ decl => decl.uses
  | .fields _ _ rest => rest.filterMap Field.use?
  | .contribution _ _ embedded _ resolved => (resolved.use? embedded).toList
  | .element _ resolved => (resolved.use? false).toList
  | .named _ embedded target => [⟨target, embedded⟩]

/-- A call occurs in a run over all declared types, in a context, while a declaration is worked out inside
    others, the innermost of them first. Each component is worked out in the context that the declared
    types before it left. -/
inductive Occurs (graph : Declarations) (policy : RegistrationPolicy) :
    Place → List Place → Call × Context → Prop where
  | start {before after : List Place} {place : Place}
      (listed : graph.placedTypes = before ++ place :: after)
      (component : place.2.docs.componentId?.isSome = true) :
      Occurs graph policy place []
        (.type place.1 place.2, (generateEach graph before (Context.start policy)).2)
  | within {place : Place} {outside : List Place} {outer inner : Call × Context}
      (occurs : Occurs graph policy place outside outer) (calls : CallsWithin graph outer inner) :
      Occurs graph policy place outside inner
  | enter {place target : Place} {outside : List Place} {outer : Call × Context} {ctx : Context}
      (occurs : Occurs graph policy place outside outer)
      (calls : Calls graph outer (.type target.1 target.2, ctx)) :
      Occurs graph policy target (place :: outside) (.type target.1 target.2, ctx)

variable {graph : Declarations}

/-! ### One call inside another one

What a call hands to the calls inside it: uses that it has to resolve itself, its active names, and a
context in which only active names are cyclic. -/

/-- A call inside another one that works out no type has some of its uses to resolve. -/
theorem CallsWithin.uses_subset {outer inner : Call × Context}
    (calls : CallsWithin graph outer inner) :
    inner.1.file = outer.1.file ∧ ∀ use ∈ inner.1.uses, use ∈ outer.1.uses := by
  obtain ⟨calls, other⟩ := calls
  cases calls with
  | shape => exact ⟨rfl, fun use member => member⟩
  | fields shape =>
      refine ⟨rfl, fun use member => ?_⟩
      simpa only [Call.uses, TypeDeclaration.uses, shape] using member
  | target shape =>
      refine ⟨rfl, fun use member => ?_⟩
      simpa only [Call.uses, TypeDeclaration.uses, shape] using member
  | firstField contributes =>
      refine ⟨rfl, fun use member => ?_⟩
      rw [Call.uses, filterMap_cons_eq, Field.use?, if_pos contributes]
      exact List.mem_append_left _ member
  | laterFields contributes first =>
      refine ⟨rfl, fun use member => ?_⟩
      rw [Call.uses, filterMap_cons_eq]
      exact List.mem_append_right _ member
  | visibleFields hidden =>
      refine ⟨rfl, fun use member => ?_⟩
      rw [Call.uses, filterMap_cons_eq]
      exact List.mem_append_right _ member
  | named unknown =>
      refine ⟨rfl, fun use member => ?_⟩
      simpa only [Call.uses, TypeUse.use?, unknown, Option.toList_some] using member
  | item => exact ⟨rfl, fun use member => member⟩
  | value => exact ⟨rfl, fun use member => member⟩
  | inner => exact ⟨rfl, fun use member => member⟩
  | element => exact ⟨rfl, fun use member => member⟩
  | expand found fresh => exact absurd rfl (other _ _)

/-- A call works out a type if it has to resolve a use of it, and the name of the type is not active. -/
theorem Calls.enters {outer : Call × Context} {target : Place} {ctx : Context}
    (calls : Calls graph outer (.type target.1 target.2, ctx)) :
    (∃ use ∈ outer.1.uses, graph.findType? use.type.name outer.1.file.path = some target) ∧
      target.2.name ∉ ctx.active ∧ ctx = outer.2 := by
  obtain ⟨targetFile, target⟩ := target
  cases calls with
  | @expand file _ embedded type _ _ found fresh =>
      exact ⟨⟨⟨type, embedded⟩, List.mem_singleton_self _, found⟩, fresh, rfl⟩

/-- A call inside another one finds only active names cyclic, if the other one does. -/
theorem Calls.balanced {outer inner : Call × Context} (calls : Calls graph outer inner)
    (balanced : outer.2.Balanced) : inner.2.Balanced := by
  cases calls with
  | shape => exact Context.Balanced.enter balanced _
  | @laterFields file properties own field rest ctx reached contributes first =>
      have made := contribution_follows (usesFollow graph ctx.active) file field.type
        field.propertyName field.embedded field.docs ctx rfl balanced
      obtain ⟨_, context⟩ := Prod.mk.inj first.run_eq
      exact context ▸ balanced_contribution made balanced
  | _ => exact balanced

/-! ### Calls that occur

By induction on how a call comes about in a run, from what was said of one call inside another one. -/

namespace Occurs

variable {policy : RegistrationPolicy} {place : Place} {outside : List Place}
  {state : Call × Context}

/-- A call resolves uses of the declaration that is being worked out, in its file. -/
theorem uses_subset (occurs : Occurs graph policy place outside state) :
    state.1.file = place.1 ∧ ∀ use ∈ state.1.uses, use ∈ place.2.uses := by
  induction occurs with
  | start listed component => exact ⟨rfl, fun use member => member⟩
  | within occurs calls ih =>
      obtain ⟨sameFile, fewer⟩ := calls.uses_subset
      exact ⟨sameFile.trans ih.1, fun use member => ih.2 use (fewer use member)⟩
  | enter occurs calls ih => exact ⟨rfl, fun use member => member⟩

/-- A use that a call has to resolve is one of the declaration that is being worked out. -/
theorem uses_of_found (occurs : Occurs graph policy place outside state) {use : Use}
    (used : use ∈ state.1.uses) {target : Place}
    (found : graph.findType? use.type.name state.1.file.path = some target) :
    use ∈ place.2.uses ∧ graph.findType? use.type.name place.1.path = some target := by
  obtain ⟨sameFile, fewer⟩ := occurs.uses_subset
  exact ⟨fewer use used, sameFile ▸ found⟩

/-- A type is worked out only while its name is not active. -/
theorem fresh {file : FileDeclarations} {decl : TypeDeclaration} {ctx : Context}
    (occurs : Occurs graph policy place outside (.type file decl, ctx)) :
    decl.name ∉ ctx.active := by
  cases occurs with
  | start listed component =>
      rw [(idle_generateEach graph _ (Context.idle_start policy)).active]
      exact List.not_mem_nil
  | within occurs calls => exact absurd rfl (calls.2 _ _)
  | enter occurs calls => exact calls.enters.2.1

/-- The active names are those of the declarations that are being worked out. -/
theorem working_eq (occurs : Occurs graph policy place outside state) :
    working state = (place :: outside).map (·.2.name) := by
  induction occurs with
  | @start before after place listed component =>
      have idle := (idle_generateEach graph before (Context.idle_start policy)).active
      rw [working, Context.active_enter_of_fresh (by simp [idle]), idle]
      rfl
  | within occurs calls ih =>
      rcases calls.1.working_cases with ⟨_, same⟩ | ⟨file, decl, entered, _⟩
      · exact same.trans ih
      · exact absurd entered (calls.2 file decl)
  | @enter place target outside outer ctx occurs calls ih =>
      obtain ⟨file, decl⟩ := target
      rcases calls.working_cases with ⟨other, _⟩ | ⟨_, _, same, _, _, _, grown⟩
      · exact absurd rfl (other file decl)
      · cases same
        rw [grown, ih]
        rfl

/-- While a struct is worked out, its first field is, if that contributes. -/
theorem first_field {field : Field} {rest : List Field} {ctx : Context}
    (occurs : Occurs graph policy place outside (.type place.1 place.2, ctx))
    (shape : place.2.shape = .struct (field :: rest)) (contributes : field.contributes = true) :
    Occurs graph policy place outside
      (.contribution place.1 field.propertyName field.embedded field.docs field.type,
        ctx.enter place.2.name) :=
  ((occurs.within ⟨.shape, nofun⟩).within ⟨.fields shape, nofun⟩).within ⟨.firstField contributes, nofun⟩

/-- The type of a field is worked out for it, unless it is well-known or its name is active. -/
theorem enter_field {file : FileDeclarations} {name : String} {embedded : Bool}
    {docs : Documentation} {type : TypeName} {target : Place} {ctx : Context}
    (occurs : Occurs graph policy place outside
      (.contribution file name embedded docs (.named type), ctx))
    (unknown : wellKnownSchema? type = none)
    (found : graph.findType? type.name file.path = some target) (fresh : target.2.name ∉ ctx.active) :
    Occurs graph policy target (place :: outside) (.type target.1 target.2, ctx) :=
  (occurs.within ⟨.named unknown, nofun⟩).enter (.expand found fresh)

/-- Only active names are cyclic. -/
theorem balanced (occurs : Occurs graph policy place outside state) : state.2.Balanced := by
  induction occurs with
  | start listed component =>
      exact (idle_generateEach graph _ (Context.idle_start policy)).balanced
  | within occurs calls ih => exact calls.1.balanced ih
  | enter occurs calls ih => exact calls.balanced ih

/-- The declarations that are being worked out are declared. -/
theorem placed (occurs : Occurs graph policy place outside state) :
    ∀ outer ∈ place :: outside, outer ∈ graph.placedTypes := by
  induction occurs with
  | start listed component =>
      intro outer member
      obtain rfl := List.mem_singleton.1 member
      simp [listed]
  | within occurs calls ih => exact ih
  | enter occurs calls ih =>
      obtain ⟨⟨use, used, found⟩, _⟩ := calls.enters
      exact List.forall_mem_cons.2 ⟨Declarations.mem_placedTypes_of_findType? found, ih⟩

/-- The innermost declaration that is being worked out is used by those around it. -/
theorem used (occurs : Occurs graph policy place outside state) :
    ∀ outer ∈ outside, Relation.TransGen graph.Uses outer place := by
  induction occurs with
  | start listed component => exact List.forall_mem_nil _
  | within occurs calls ih => exact ih
  | @enter place target outside state ctx occurs calls ih =>
      obtain ⟨⟨use, used, found⟩, _⟩ := calls.enters
      obtain ⟨used, found⟩ := occurs.uses_of_found used found
      have uses : graph.Uses place target := ⟨use, used, found⟩
      exact List.forall_mem_cons.2
        ⟨Relation.TransGen.single uses, fun outer member => (ih outer member).tail uses⟩

end Occurs

end Generator

end SwaggerDocs
