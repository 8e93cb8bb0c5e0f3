/-
Module: SwaggerDocs.Proofs.Swagger.Parts
Purpose: The parts of a schema at any depth, and properties that all parts have. Schemas whose payloads
  are texts are the same only if they are equal; paths with the same operations are equal.
Main exports: Schema.PartOf, Schema.Every, Schema.every_iff, Schema.RefersWithin, Schema.TextPayloads,
  Schema.same_iff_eq, PathItem.mem_operations, PathItem.ext_operation?
-/
import SwaggerDocs.Proofs.Text.Scan
import SwaggerDocs.Swagger.Operation

namespace SwaggerDocs

namespace Schema

/-- A schema occurs in another one, at any depth. -/
inductive PartOf (part : Schema) : Schema → Prop where
  | self : PartOf part part
  | property {whole inner : Schema} {name : String} (member : (name, inner) ∈ whole.properties)
      (inside : PartOf part inner) : PartOf part whole
  | items {whole inner : Schema} (present : whole.items = some inner)
      (inside : PartOf part inner) : PartOf part whole
  | values {whole inner : Schema} (present : whole.additionalProperties = some inner)
      (inside : PartOf part inner) : PartOf part whole

/-- All parts of a schema, itself among them, have a property. -/
def Every (P : Schema → Prop) (schema : Schema) : Prop := ∀ part, PartOf part schema → P part

section Every

variable {P Q : Schema → Prop} {schema : Schema}

theorem Every.self (every : schema.Every P) : P schema := every schema .self

/-- All parts also have any weaker property. -/
theorem Every.mono (imp : ∀ part, P part → Q part) (every : schema.Every P) : schema.Every Q :=
  fun part inside => imp part (every part inside)

/-- All parts of a property of the schema have it. -/
theorem Every.property {entry : String × Schema} (every : schema.Every P)
    (member : entry ∈ schema.properties) : entry.2.Every P :=
  fun part inside => every part (.property member inside)

/-- A property of all parts is one of the schema and of all parts of its immediate parts. -/
theorem every_iff :
    schema.Every P ↔
      P schema ∧ (∀ entry ∈ schema.properties, entry.2.Every P) ∧
        (∀ inner, schema.items = some inner → inner.Every P) ∧
          ∀ inner, schema.additionalProperties = some inner → inner.Every P := by
  constructor
  · intro every
    exact ⟨every.self, fun entry member => every.property member,
      fun inner present part inside => every part (.items present inside),
      fun inner present part inside => every part (.values present inside)⟩
  · rintro ⟨own, properties, items, values⟩ part inside
    cases inside with
    | self => exact own
    | property member inside => exact properties _ member part inside
    | items present inside => exact items _ present part inside
    | values present inside => exact values _ present part inside

/-- A schema with the immediate parts of another one has a property of all parts if it has it
    itself. -/
theorem Every.congr {other : Schema} (every : schema.Every P) (own : P other)
    (properties : other.properties = schema.properties) (items : other.items = schema.items)
    (values : other.additionalProperties = schema.additionalProperties) : other.Every P := by
  have parts := every_iff.1 every
  rw [every_iff, properties, items, values]
  exact ⟨own, parts.2⟩

end Every

/-! ### References

A reference is a keyword of a schema, so that all references of a schema lead somewhere is a property of
all its parts. -/

/-- A schema that is a reference refers to one of some identifiers. -/
def RefersTo (ids : String → Prop) (schema : Schema) : Prop :=
  ∀ text, schema.reference = some text → ∃ id, schema.referenceTarget? = some id ∧ ids id

/-- All references in a schema, at any depth, are references to some identifiers. -/
def RefersWithin (ids : String → Prop) (schema : Schema) : Prop := schema.Every (RefersTo ids)

/-- A reference to a definition has its identifier as target. -/
@[simp] theorem referenceTarget?_referTo (id : String) :
    (referTo id).referenceTarget? = some id := by
  simp [referTo, referenceTarget?, String.toList_append, Text.stripStart?_eq_some_iff.2]

/-! ### Equality of schemas

The comparison of schemas goes through all keywords, and compares payloads by what they stand for. For
texts this is equality, and the payloads of generated schemas are texts. -/

/-- A payload that is a text, if there is one. -/
def IsText : Option Json → Prop
  | none | some (.string _) => True
  | some _ => False

/-- The payloads of a schema itself are texts. -/
def TextPayloads (schema : Schema) : Prop := IsText schema.exampleValue ∧ IsText schema.defaultValue

/-- Texts are the same only if they are equal. -/
theorem samePayload_iff_eq {a b : Option Json} (left : IsText a) (right : IsText b) :
    samePayload a b = true ↔ a = b := by
  cases a with
  | none => cases b <;> simp [samePayload]
  | some x =>
      cases x <;> simp only [IsText] at left
      cases b with
      | none => simp [samePayload]
      | some y =>
          cases y <;> simp only [IsText] at right
          simp [samePayload, Json.same]

mutual

/-- Schemas with texts as payloads are the same only if they are equal. -/
theorem same_iff_eq : ∀ {a b : Schema}, a.Every TextPayloads → b.Every TextPayloads →
    (a.same b = true ↔ a = b)
  | ⟨_, _, _, properties, items, values, _, _, _, _⟩,
    ⟨_, _, _, properties', items', values', _, _, _, _⟩, left, right => by
      obtain ⟨own, inProperties, inItems, inValues⟩ := every_iff.1 left
      obtain ⟨own', inProperties', inItems', inValues'⟩ := every_iff.1 right
      have sameProperties := sameProperties_iff_eq inProperties inProperties'
      have sameItems := sameOptional_iff_eq inItems inItems'
      have sameValues := sameOptional_iff_eq inValues inValues'
      have sameExample := samePayload_iff_eq own.1 own'.1
      have sameDefault := samePayload_iff_eq own.2 own'.2
      simp only at sameProperties sameItems sameValues sameExample sameDefault
      simp only [same, Bool.and_eq_true, decide_eq_true_eq, sameProperties, sameItems, sameValues,
        sameExample, sameDefault, Schema.mk.injEq, and_assoc]

theorem sameProperties_iff_eq : ∀ {as bs : List (String × Schema)},
    (∀ entry ∈ as, entry.2.Every TextPayloads) → (∀ entry ∈ bs, entry.2.Every TextPayloads) →
      (sameProperties as bs = true ↔ as = bs)
  | [], [], _, _ => by simp [sameProperties]
  | [], _ :: _, _, _ => by simp [sameProperties]
  | _ :: _, [], _, _ => by simp [sameProperties]
  | (k, a) :: as, (l, b) :: bs, left, right => by
      have heads := same_iff_eq (left (k, a) List.mem_cons_self) (right (l, b) List.mem_cons_self)
      have tails := sameProperties_iff_eq
        (fun entry member => left entry (List.mem_cons_of_mem _ member))
        (fun entry member => right entry (List.mem_cons_of_mem _ member))
      simp only at heads
      simp [sameProperties, heads, tails]

/-- Parts that may be absent are compared as the schemas are. -/
theorem sameOptional_iff_eq : ∀ {a b : Option Schema},
    (∀ inner, a = some inner → inner.Every TextPayloads) →
      (∀ inner, b = some inner → inner.Every TextPayloads) →
        (sameOptional a b = true ↔ a = b)
  | none, none, _, _ => by simp [sameOptional]
  | none, some _, _, _ => by simp [sameOptional]
  | some _, none, _, _ => by simp [sameOptional]
  | some a, some b, left, right => by
      simp [sameOptional, same_iff_eq (left a rfl) (right b rfl)]

end

end Schema

/-! ### Operations of a path

A path has one place for each method, and is determined by what stands there. -/

namespace PathItem

/-- The listed operations are those of the methods. -/
theorem mem_operations {item : PathItem} {operation : Operation} :
    operation ∈ item.operations ↔ ∃ method, item.operation? method = some operation := by
  have every : ∀ method : HttpMethod, method ∈ HttpMethod.all := by
    intro method
    cases method <;> decide
  rw [operations, List.mem_filterMap]
  constructor
  · rintro ⟨method, _, bound⟩
    exact ⟨method, bound⟩
  · rintro ⟨method, bound⟩
    exact ⟨method, every method, bound⟩

/-- The operations of a path are those of its methods, and nothing more. -/
theorem ext_operation? {left right : PathItem}
    (same : ∀ method, left.operation? method = right.operation? method) : left = right := by
  obtain ⟨get, put, post, delete, options, head, patch⟩ := left
  obtain ⟨get', put', post', delete', options', head', patch'⟩ := right
  obtain rfl : get = get' := same .get
  obtain rfl : put = put' := same .put
  obtain rfl : post = post' := same .post
  obtain rfl : delete = delete' := same .delete
  obtain rfl : options = options' := same .options
  obtain rfl : head = head' := same .head
  obtain rfl : patch = patch' := same .patch
  rfl

end PathItem

end SwaggerDocs
