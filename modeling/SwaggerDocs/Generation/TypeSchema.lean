/-
Module: SwaggerDocs.Generation.TypeSchema
Purpose: The pieces that the schemas of declared types are made from: the schemas of built-in and
  well-known types, the changes that a documentation block makes, and the one property of a field. A
  declared type is worked out while its name is active, so the declared names that are not active
  measure how deep a run can still go.
Main exports: Resolution, primitiveSchema, wellKnownSchema?, applyDocs, inactive, single, onlySchema
-/
import SwaggerDocs.Declarations.Basic
import SwaggerDocs.Swagger.Schema

namespace SwaggerDocs

namespace Generation

/-- What a use of a declared type stands for. -/
inductive Resolution where
  | schema (schema : Schema)
  /-- The properties take the place of the field. -/
  | splice (properties : Entries String Schema)
  /-- The field is left out. -/
  | skip
deriving Repr

/-- The name under which an item of an array or a value of a map is worked out. -/
def itemKey : String := "item"

/-! ### Types that need no declaration -/

/-- The type and format of a built-in type. -/
def primitiveType : Primitive → String × Option String
  | .bool => ("boolean", none)
  | .i8 | .u8 => ("integer", some "int8")
  | .i16 | .u16 => ("integer", some "int16")
  | .i32 | .u32 => ("integer", some "int32")
  | .i64 | .u64 | .isize | .usize => ("integer", some "int64")
  | .f32 => ("number", some "float")
  | .f64 => ("number", some "double")
  | .string | .char | .i128 | .u128 => ("string", none)

/-- A built-in type that has no counterpart in documents. -/
def lacksCounterpart : Primitive → Bool
  | .char | .i128 | .u128 => true
  | _ => false

/-- The schema of a built-in type. -/
def primitiveSchema (kind : Primitive) : Schema :=
  Schema.primitive (primitiveType kind).1 (primitiveType kind).2

/-- The first segments of paths that lead to well-known types. -/
def knownRoots : List String := ["chrono", "time", "std", "uuid"]

/-- The format of a well-known type. A date needs a path, since its name is a common one. -/
def wellKnownFormat? (type : TypeName) : Option String :=
  match type.name with
  | "DateTime" | "NaiveDateTime" | "SystemTime" | "OffsetDateTime" | "PrimitiveDateTime" =>
      some "date-time"
  | "NaiveDate" => some "date"
  | "Date" => if type.qualifier.isEmpty then none else some "date"
  | "Uuid" => some "uuid"
  | _ => none

/-- The schema of a date, a time or an identifier type, which is a string with a format. -/
def wellKnownSchema? (type : TypeName) : Option Schema :=
  if type.qualifier.head?.all knownRoots.contains then
    (wellKnownFormat? type).map fun format => Schema.primitive "string" (some format)
  else none

/-! ### Documentation -/

/-- Lets one directive of a field change its schema. -/
def applyDirective (schema : Schema) : SchemaDirective → Schema
  | .component _ => schema
  | .example text => { schema with exampleValue := some (.string text) }
  | .format text => { schema with format := some text }
  | .default text => { schema with defaultValue := some (.string text) }

/-- The schema with the description and the directives of a documentation block. -/
def applyDocs (schema : Schema) (docs : Documentation) : Schema :=
  (docs.lines.filterMap Directive.parseSchema?).foldl applyDirective
    (schema.withDescription docs.text?)

/-! ### Declared types -/

/-- How many declared names are not active. -/
def inactive (graph : Declarations) (active : List String) : Nat :=
  (graph.types.map (·.name)).countP fun name => decide (name ∉ active)

theorem countP_notMem_cons_le (active names : List String) (name : String) :
    names.countP (fun n => decide (n ∉ name :: active)) ≤
      names.countP fun n => decide (n ∉ active) :=
  List.countP_mono_left fun n _ h => by
    simp only [decide_eq_true_eq, List.mem_cons, not_or] at h ⊢
    exact h.2

theorem countP_notMem_cons_lt {active names : List String} {name : String}
    (declared : name ∈ names) (fresh : name ∉ active) :
    names.countP (fun n => decide (n ∉ name :: active)) <
      names.countP fun n => decide (n ∉ active) := by
  induction names with
  | nil => simp at declared
  | cons n rest ih =>
    have le := countP_notMem_cons_le active rest name
    simp only [List.countP_cons, List.mem_cons] at le ih ⊢
    by_cases h : n = name
    · subst h
      simp only [true_or, not_true, decide_false, Bool.false_eq_true, if_false, fresh,
        not_false_eq_true, decide_true, if_true]
      omega
    · have lt := ih ((List.mem_cons.1 declared).resolve_left fun e => h e.symm)
      by_cases h' : n ∈ active <;>
        simp only [h, h', false_or, not_true, not_false_eq_true, decide_true,
          decide_false, Bool.false_eq_true, if_true, if_false] <;> omega

theorem inactive_target_lt {graph : Declarations} {active : List String} {name : String}
    {path : Path} {file : FileDeclarations} {decl : TypeDeclaration}
    (found : graph.findType? name path = some (file, decl)) (fresh : decl.name ∉ active) :
    inactive graph (decl.name :: active) < inactive graph active :=
  countP_notMem_cons_lt (List.mem_map_of_mem (Declarations.findType?_mem_types found).1) fresh

/-- The one property of a field that has a schema. -/
def single (name : String) (schema : Schema) (docs : Documentation) : Entries String Schema :=
  [(name, applyDocs schema docs)]

/-- The schema of the only property that a name can have; a schema without keywords if it has
    none. -/
def onlySchema (name : String) (properties : Entries String Schema) : Schema :=
  (properties.find? name).getD Schema.any

end Generation

end SwaggerDocs
