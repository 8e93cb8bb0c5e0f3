/-
Module: SwaggerDocs.Proofs.Generation.Termination
Purpose: Every call of the generator ends, on all declarations and in all contexts. A type is worked
  out inside another one only while its name is not active, and stays active during all calls that it
  makes: so along a chain of calls the active names grow, and those that are added are declared. Until
  the next type is worked out, the types that are looked at get smaller.
Main exports: Generator.Calls, Generator.wellFounded_calls, Generator.exists_evaluates,
  Generator.calls_terminate
-/
import Mathlib.Logic.ExistsUnique
import Mathlib.Logic.Relation
import SwaggerDocs.Proofs.Generation.Evaluation

namespace SwaggerDocs

open Generation

/-- How many wrappers, arrays and maps stand around the innermost type. -/
def TypeUse.layers : TypeUse → Nat
  | .sequence item => item.layers + 1
  | .mapping value => value.layers + 1
  | .indirect inner => inner.layers + 1
  | .primitive _ | .named _ | .any | .unsupported _ => 0

namespace Generator

/-- One call makes another one. The fields after the first one are met in the context that the first
    one reached. -/
inductive Calls (graph : Declarations) : Call × Context → Call × Context → Prop where
  | shape {file : FileDeclarations} {decl : TypeDeclaration} {ctx : Context} :
      Calls graph (.type file decl, ctx) (.shape file decl, ctx.enter decl.name)
  | fields {file : FileDeclarations} {decl : TypeDeclaration} {ctx : Context}
      {fields : List Field} (shape : decl.shape = .struct fields) :
      Calls graph (.shape file decl, ctx) (.fields file [] fields, ctx)
  | target {file : FileDeclarations} {decl : TypeDeclaration} {ctx : Context} {target : TypeUse}
      (shape : decl.shape = .alias target) :
      Calls graph (.shape file decl, ctx)
        (.contribution file decl.name false decl.docs target, ctx)
  | firstField {file : FileDeclarations} {properties : Entries String Schema} {field : Field}
      {rest : List Field} {ctx : Context} (contributes : field.contributes = true) :
      Calls graph (.fields file properties (field :: rest), ctx)
        (.contribution file field.propertyName field.embedded field.docs field.type, ctx)
  | laterFields {file : FileDeclarations} {properties own : Entries String Schema} {field : Field}
      {rest : List Field} {ctx reached : Context} (contributes : field.contributes = true)
      (first : Evaluates graph
        (.contribution file field.propertyName field.embedded field.docs field.type) ctx own
        reached) :
      Calls graph (.fields file properties (field :: rest), ctx)
        (.fields file (properties.extend own) rest, reached)
  | visibleFields {file : FileDeclarations} {properties : Entries String Schema} {field : Field}
      {rest : List Field} {ctx : Context} (hidden : field.contributes = false) :
      Calls graph (.fields file properties (field :: rest), ctx) (.fields file properties rest, ctx)
  | named {file : FileDeclarations} {name : String} {embedded : Bool} {docs : Documentation}
      {type : TypeName} {ctx : Context} (unknown : wellKnownSchema? type = none) :
      Calls graph (.contribution file name embedded docs (.named type), ctx)
        (.named file embedded type, ctx)
  | item {file : FileDeclarations} {name : String} {embedded : Bool} {docs : Documentation}
      {item : TypeUse} {ctx : Context} :
      Calls graph (.contribution file name embedded docs (.sequence item), ctx)
        (.element file item, ctx)
  | value {file : FileDeclarations} {name : String} {embedded : Bool} {docs : Documentation}
      {value : TypeUse} {ctx : Context} :
      Calls graph (.contribution file name embedded docs (.mapping value), ctx)
        (.element file value, ctx)
  | inner {file : FileDeclarations} {name : String} {embedded : Bool} {docs : Documentation}
      {type : TypeUse} {ctx : Context} :
      Calls graph (.contribution file name embedded docs (.indirect type), ctx)
        (.contribution file name embedded docs type, ctx)
  | element {file : FileDeclarations} {type : TypeUse} {ctx : Context} :
      Calls graph (.element file type, ctx)
        (.contribution file itemKey false Documentation.empty type, ctx)
  | expand {file targetFile : FileDeclarations} {embedded : Bool} {type : TypeName}
      {target : TypeDeclaration} {ctx : Context}
      (found : graph.findType? type.name file.path = some (targetFile, target))
      (fresh : target.name ∉ ctx.active) :
      Calls graph (.named file embedded type, ctx) (.type targetFile target, ctx)

/-! ### No chain of calls goes on forever

Calls are compared by the declared names that are not active, then by their kinds, then by what is left
of the type or the fields that they look at. A call that works out a type uses up a name; every other
one is of a lower kind, or has less left to look at. -/

/-- The names that are active while a call makes its own calls. -/
def working : Call × Context → List String
  | (.type _ decl, ctx) => (ctx.enter decl.name).active
  | (_, ctx) => ctx.active

/-- Calls are ordered by the declared names that are not active, then by their kinds, then by what is
    left of a type or a list of fields. -/
def weight (graph : Declarations) : Call × Context → Nat × Nat × Nat
  | (.type file decl, ctx) => (inactive graph (working (.type file decl, ctx)), 4, 0)
  | (.shape _ _, ctx) => (inactive graph ctx.active, 3, 0)
  | (.fields _ _ rest, ctx) => (inactive graph ctx.active, 2, rest.length)
  | (.contribution _ _ _ _ type, ctx) => (inactive graph ctx.active, 1, 2 * type.layers)
  | (.element _ type, ctx) => (inactive graph ctx.active, 1, 2 * type.layers + 1)
  | (.named _ _ _, ctx) => (inactive graph ctx.active, 0, 0)

variable {graph : Declarations}

/-- One call inside another one weighs less. -/
theorem Calls.weight_lt {outer inner : Call × Context} (calls : Calls graph outer inner) :
    Prod.Lex Nat.lt (Prod.Lex Nat.lt Nat.lt) (weight graph inner) (weight graph outer) := by
  have kind : ∀ {n k k' s s' : Nat}, k < k' →
      Prod.Lex Nat.lt (Prod.Lex Nat.lt Nat.lt) (n, k, s) (n, k', s') :=
    fun less => Prod.Lex.right _ (Prod.Lex.left _ _ less)
  have size : ∀ {n k s s' : Nat}, s < s' →
      Prod.Lex Nat.lt (Prod.Lex Nat.lt Nat.lt) (n, k, s) (n, k, s') :=
    fun less => Prod.Lex.right _ (Prod.Lex.right _ less)
  cases calls with
  | shape => exact kind (by decide)
  | fields shape => exact kind (by decide)
  | target shape => exact kind (by decide)
  | firstField contributes => exact kind (by decide)
  | laterFields contributes first =>
      have restored := first.active_eq
      simp only [Call.leaves] at restored
      simp only [weight, restored]
      exact size (Nat.lt_succ_self _)
  | visibleFields hidden => exact size (Nat.lt_succ_self _)
  | named unknown => exact kind (by decide)
  | item => exact size (by simp only [TypeUse.layers]; omega)
  | value => exact size (by simp only [TypeUse.layers]; omega)
  | inner => exact size (by simp only [TypeUse.layers]; omega)
  | element => exact size (Nat.lt_succ_self _)
  | expand found fresh =>
      simp only [weight, working, Context.active_enter_of_fresh fresh]
      exact Prod.Lex.left _ _ (inactive_target_lt found fresh)

/-- Calls within calls cannot go on forever. -/
theorem wellFounded_calls (graph : Declarations) :
    WellFounded fun inner outer => Calls graph outer inner :=
  Subrelation.wf Calls.weight_lt
    (InvImage.wf (weight graph) (Prod.lex Nat.lt_wfRel (Prod.lex Nat.lt_wfRel Nat.lt_wfRel)).wf)

/-- Every call in every context ends: it does if the calls that it makes do. -/
theorem exists_evaluates (graph : Declarations) (start : Call × Context) :
    ∃ answer after, Evaluates graph start.1 start.2 answer after := by
  induction start using (wellFounded_calls graph).induction with
  | _ start ih =>
      obtain ⟨call, ctx⟩ := start
      cases call with
      | type file decl =>
          obtain ⟨made, reached, inner⟩ := ih _ .shape
          exact ⟨made, _, .type inner⟩
      | shape file decl =>
          cases shape : decl.shape with
          | struct fields =>
              obtain ⟨properties, after, inner⟩ := ih _ (.fields shape)
              exact ⟨_, after, .struct shape inner⟩
          | «alias» target =>
              obtain ⟨properties, after, inner⟩ := ih _ (.target shape)
              exact ⟨_, after, .alias shape inner⟩
          | enumeration names => exact ⟨_, ctx, .enumeration shape⟩
          | unmappable reason => exact ⟨none, _, .unmappable shape⟩
      | fields file properties rest =>
          cases rest with
          | nil => exact ⟨properties, ctx, .noField⟩
          | cons field rest =>
              cases visible : field.contributes with
              | false =>
                  obtain ⟨all, after, later⟩ := ih _ (.visibleFields visible)
                  exact ⟨all, after, .hiddenField visible later⟩
              | true =>
                  obtain ⟨own, reached, first⟩ := ih _ (.firstField visible)
                  -- The later fields are a call only once the first one has been evaluated.
                  obtain ⟨all, after, later⟩ := ih _ (.laterFields visible first)
                  exact ⟨all, after, .field visible first later⟩
      | contribution file name embedded docs type =>
          cases type with
          | primitive kind => exact ⟨_, _, .primitive⟩
          | named type =>
              cases known : wellKnownSchema? type with
              | some schema => exact ⟨_, ctx, .wellKnown known⟩
              | none =>
                  obtain ⟨use, after, inner⟩ := ih _ (.named known)
                  exact ⟨_, after, .named known inner⟩
          | sequence item =>
              obtain ⟨schema, after, inner⟩ := ih _ .item
              exact ⟨_, after, .sequence inner⟩
          | mapping value =>
              obtain ⟨schema, after, inner⟩ := ih _ .value
              exact ⟨_, after, .mapping inner⟩
          | indirect type =>
              obtain ⟨properties, after, inner⟩ := ih _ .inner
              exact ⟨properties, after, .indirect inner⟩
          | any => exact ⟨_, ctx, .any⟩
          | unsupported kind => exact ⟨[], _, .unsupported⟩
      | element file type =>
          obtain ⟨properties, after, inner⟩ := ih _ .element
          exact ⟨_, after, .element inner⟩
      | named file embedded type =>
          cases found : graph.findType? type.name file.path with
          | none => exact ⟨.skip, _, .missing found⟩
          | some place =>
              obtain ⟨targetFile, target⟩ := place
              by_cases busy : target.name ∈ ctx.active
              · cases embedded with
                | true => exact ⟨.skip, _, .flattensItself found busy⟩
                | false => exact ⟨_, _, .cyclic found busy⟩
              · -- The type may be larger than any before, but one more name is active in it.
                obtain ⟨made, reached, inner⟩ := ih _ (.expand found busy)
                exact ⟨_, _, .expand found busy inner⟩

/-! ### The active names along a chain of calls

The same measure, told along a whole chain: the names of the types that are worked out are declared,
distinct, and not active before. -/

/-- A call inside another one works with the same active names, or is for a declared type and adds its
    name, which was not active. -/
theorem Calls.working_cases {outer inner : Call × Context} (calls : Calls graph outer inner) :
    ((∀ file decl, inner.1 ≠ .type file decl) ∧ working inner = working outer) ∨
      ∃ file decl, inner.1 = .type file decl ∧ (file, decl) ∈ graph.placedTypes ∧
        inner.2.active = working outer ∧ decl.name ∉ working outer ∧
          working inner = decl.name :: working outer := by
  cases calls with
  | laterFields contributes first => exact Or.inl ⟨by simp, first.active_eq⟩
  | @expand file targetFile embedded type target ctx found fresh =>
      obtain ⟨inGraph, inFile, _⟩ := Declarations.findType?_mem found
      exact Or.inr ⟨targetFile, target, rfl, Declarations.mem_placedTypes.2 ⟨inGraph, inFile⟩, rfl,
        fresh, Context.active_enter_of_fresh fresh⟩
  | _ => exact Or.inl ⟨by simp, rfl⟩

/-- Along a chain of calls no active name is lost, and only declared names are added. -/
theorem working_of_chain {outer inner : Call × Context}
    (chain : Relation.ReflTransGen (Calls graph) outer inner) :
    (∀ name ∈ working outer, name ∈ working inner) ∧
      ∀ name ∈ working inner, name ∈ working outer ∨ name ∈ graph.types.map (·.name) := by
  induction chain with
  | refl => exact ⟨fun _ member => member, fun _ member => Or.inl member⟩
  | tail _ last ih =>
      obtain ⟨kept, origin⟩ := ih
      rcases last.working_cases with ⟨_, same⟩ | ⟨file, decl, _, placed, _, _, grown⟩
      · rw [same]
        exact ⟨kept, origin⟩
      · rw [grown]
        refine ⟨fun name member => List.mem_cons_of_mem _ (kept name member), fun name member => ?_⟩
        rcases List.mem_cons.1 member with own | earlier
        · exact Or.inr (own ▸ Declarations.name_mem_of_placed placed)
        · exact origin name earlier

/-- With more active names there are no more inactive ones. -/
theorem inactive_le_of_subset {active active' : List String}
    (more : ∀ name ∈ active, name ∈ active') : inactive graph active' ≤ inactive graph active :=
  List.countP_mono_left fun name _ fresh => by
    simp only [decide_eq_true_eq] at fresh ⊢
    exact fun member => fresh (more name member)

/-- A type that is worked out inside a call is a declared one whose name is not active, while all names
    are that were active during the call; the names that were added since then are declared. So fewer
    declared names are left that are not active. -/
theorem nested_type_fresh {outer : Call × Context} {file : FileDeclarations}
    {decl : TypeDeclaration} {ctx : Context}
    (chain : Relation.TransGen (Calls graph) outer (.type file decl, ctx)) :
    (file, decl) ∈ graph.placedTypes ∧ decl.name ∉ ctx.active ∧
      (∀ name ∈ working outer, name ∈ ctx.active) ∧
        (∀ name ∈ ctx.active, name ∈ working outer ∨ name ∈ graph.types.map (·.name)) ∧
          inactive graph (ctx.enter decl.name).active < inactive graph (working outer) := by
  obtain ⟨caller, before, last⟩ := Relation.TransGen.tail'_iff.1 chain
  obtain ⟨kept, origin⟩ := working_of_chain before
  rcases last.working_cases with ⟨other, _⟩ | ⟨_, _, same, placed, active, fresh, grown⟩
  · exact absurd rfl (other file decl)
  · cases same
    have entered : (ctx.enter decl.name).active = decl.name :: working caller := grown
    have fewer : inactive graph (decl.name :: working caller) < inactive graph (working caller) :=
      countP_notMem_cons_lt (Declarations.name_mem_of_placed placed) fresh
    simp only at active
    rw [active, entered]
    exact ⟨placed, fresh, kept, origin, Nat.lt_of_lt_of_le fewer (inactive_le_of_subset kept)⟩

/-! ### The types along a chain of calls

Between two types that are worked out, a chain goes down through the type of one field. -/

/-- One call makes another one that does not work out a type. -/
def CallsWithin (graph : Declarations) (outer inner : Call × Context) : Prop :=
  Calls graph outer inner ∧ ∀ file decl, inner.1 ≠ .type file decl

/-- The type that a call resolves, if any, has fewer layers than a bound. Other calls of a resolution
    are for a named type. -/
def Call.Below (bound : Nat) : Call → Prop
  | .contribution _ _ _ _ resolved | .element _ resolved => resolved.layers < bound
  | .named _ _ _ => True
  | .type _ _ | .shape _ _ | .fields _ _ _ => False

/-- The calls inside the resolution of a type resolve smaller types. -/
theorem below_of_calls {file : FileDeclarations} {name : String} {embedded : Bool}
    {docs : Documentation} {type : TypeUse} {ctx : Context} {inner : Call × Context}
    (calls : Calls graph (.contribution file name embedded docs type, ctx) inner) :
    inner.1.Below type.layers := by
  cases calls with
  | named unknown => trivial
  | item => exact Nat.lt_succ_self _
  | value => exact Nat.lt_succ_self _
  | inner => exact Nat.lt_succ_self _

/-- A call below a bound is below a larger one. -/
theorem Call.Below.mono {bound bound' : Nat} (le : bound ≤ bound') {call : Call}
    (below : call.Below bound) : call.Below bound' := by
  cases call with
  | contribution file name embedded docs type => exact Nat.lt_of_lt_of_le below le
  | element file type => exact Nat.lt_of_lt_of_le below le
  | named file embedded type => trivial
  | type file decl => exact below
  | shape file decl => exact below
  | fields file properties rest => exact below

/-- As long as no type is worked out, the calls inside the resolution of a type resolve smaller types.
    -/
theorem below_of_chain {file : FileDeclarations} {name : String} {embedded : Bool}
    {docs : Documentation} {type : TypeUse} {ctx : Context} {inner : Call × Context}
    (chain : Relation.TransGen (CallsWithin graph)
      (.contribution file name embedded docs type, ctx) inner) :
    inner.1.Below type.layers := by
  induction chain with
  | single first => exact below_of_calls first.1
  | @tail before after _ last ih =>
      obtain ⟨call, reached⟩ := before
      cases call with
      | contribution file name embedded docs inner =>
          exact (below_of_calls last.1).mono (Nat.le_of_lt ih)
      | element file inner =>
          obtain ⟨calls, _⟩ := last
          cases calls
          exact ih
      | named file embedded inner =>
          obtain ⟨calls, untyped⟩ := last
          cases calls
          exact absurd rfl (untyped _ _)
      | type file decl => exact ih.elim
      | shape file decl => exact ih.elim
      | fields file properties rest => exact ih.elim

/-- Every call of the generator ends, on all declarations and in all contexts: no chain of calls goes on
    forever, and each call is evaluated to exactly one answer and context, those that the generator
    computes. A type that is worked out inside another call is declared and not active, while whatever
    that call works with stays active; so along a chain the active names grow within the declared ones,
    of which fewer are left at each type. Until the next type is worked out, the types that are resolved
    get smaller. -/
theorem calls_terminate (graph : Declarations) :
    (WellFounded fun inner outer => Calls graph outer inner) ∧
      (∀ (call : Call) (ctx : Context),
        (∃! ending : call.Answer × Context, Evaluates graph call ctx ending.1 ending.2) ∧
          Evaluates graph call ctx (run graph call ctx).1 (run graph call ctx).2) ∧
      (∀ (outer : Call × Context) (file : FileDeclarations) (decl : TypeDeclaration)
          (ctx : Context), Relation.TransGen (Calls graph) outer (.type file decl, ctx) →
        (file, decl) ∈ graph.placedTypes ∧ decl.name ∉ ctx.active ∧
          (∀ name ∈ working outer, name ∈ ctx.active) ∧
            (∀ name ∈ ctx.active, name ∈ working outer ∨ name ∈ graph.types.map (·.name)) ∧
              inactive graph (ctx.enter decl.name).active < inactive graph (working outer)) ∧
      ∀ (file file' : FileDeclarations) (name name' : String) (embedded embedded' : Bool)
          (docs docs' : Documentation) (type type' : TypeUse) (ctx ctx' : Context),
        Relation.TransGen (CallsWithin graph) (.contribution file name embedded docs type, ctx)
            (.contribution file' name' embedded' docs' type', ctx') →
          type'.layers < type.layers := by
  refine ⟨wellFounded_calls graph, fun call ctx => ?_, fun _ _ _ _ => nested_type_fresh, ?_⟩
  · obtain ⟨answer, after, evaluates⟩ := exists_evaluates graph (call, ctx)
    have computed := evaluates.run_eq
    refine ⟨⟨(answer, after), evaluates, ?_⟩, ?_⟩
    · rintro ⟨other, reached⟩ another
      exact another.run_eq.symm.trans computed
    · rw [computed]
      exact evaluates
  · intro file file' name name' embedded embedded' docs docs' type type' ctx ctx' chain
    exact below_of_chain chain

end Generator

end SwaggerDocs
