/-
Module: SwaggerDocs.Generation.Context
Purpose: What the generator of schemas works on: the definitions gathered so far, the types that are
  being worked out, those among them that something refers to, and the warnings. A set of names is a
  list whose order and repetitions mean nothing.
Main exports: Context, Context.start, Context.enter, Context.leave, Context.mark, Context.register
-/
import SwaggerDocs.Generation.Registry

namespace SwaggerDocs

/-- The state of a run of the generator. -/
structure Context where
  registry : Registry
  /-- The types that are being worked out. -/
  active : List String := []
  /-- The types that were referred to while they were active, and are not settled yet. -/
  cyclic : List String := []
  warnings : List Warning := []
deriving Repr

namespace Context

/-- The context at the beginning of a run. -/
def start (policy : RegistrationPolicy) : Context := { registry := Registry.empty policy }

/-- Begins to work out a type. -/
def enter (ctx : Context) (name : String) : Context :=
  { ctx with active := ctx.active.insert name }

/-- Ends to work out a type. -/
def leave (ctx : Context) (name : String) : Context :=
  { ctx with active := ctx.active.filter (· ≠ name) }

/-- Notes that something refers to an active type. -/
def mark (ctx : Context) (name : String) : Context :=
  { ctx with cyclic := ctx.cyclic.insert name }

/-- Takes the note about a type back. -/
def unmark (ctx : Context) (name : String) : Context :=
  { ctx with cyclic := ctx.cyclic.filter (· ≠ name) }

/-- Registers a schema, perhaps with a warning. -/
def register (ctx : Context) (id : String) (schema : Schema) : Context :=
  let (registry, warnings) := ctx.registry.register id schema
  { ctx with registry := registry, warnings := ctx.warnings ++ warnings }

/-- Adds a warning. -/
def warn (ctx : Context) (warning : Warning) : Context :=
  { ctx with warnings := ctx.warnings ++ [warning] }

variable (ctx : Context) (name : String)

/-- Working out a type that is not active makes it the only new active one. -/
theorem active_enter_of_fresh {ctx : Context} {name : String} (fresh : name ∉ ctx.active) :
    (ctx.enter name).active = name :: ctx.active :=
  List.insert_of_not_mem fresh

/-- After a type is worked out, it alone is no longer active. -/
theorem filter_active_enter :
    (ctx.enter name).active.filter (· ≠ name) = ctx.active.filter (· ≠ name) := by
  by_cases h : name ∈ ctx.active
  · rw [enter, List.insert_of_mem h]
  · rw [active_enter_of_fresh h, List.filter_cons_of_neg (by simp)]

theorem filter_active_of_fresh {ctx : Context} {name : String} (fresh : name ∉ ctx.active) :
    ctx.active.filter (· ≠ name) = ctx.active :=
  List.filter_eq_self.2 fun other member => by
    simpa using ne_of_mem_of_not_mem member fresh

end Context

end SwaggerDocs
