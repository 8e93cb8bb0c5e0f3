/-
Module: SwaggerDocs.Proofs.Swagger.Records
Purpose: Every part of a document is recovered from its JSON form if it is plain, and every part that is
  read is plain and nests no deeper than its reader allows. For each kind of part: the values of its
  fields, that reading them one after another rebuilds it, and what reading a field keeps.
Main exports: Schema.recovers, Schema.yields, Response.recovers, Response.yields, Operation.recovers,
  Operation.yields, PathItem.recovers, PathItem.yields
-/
import SwaggerDocs.Proofs.Swagger.Fields
import SwaggerDocs.Proofs.Swagger.Plain

namespace SwaggerDocs

open Json Decoded FieldRule

variable {P : Number → Prop}

/-! ### Values of fields

How deep the value of a field nests. A field that is left out takes no level, so the bounds are about
values that may be missing. -/

/-- A member with a list of texts is left out if the list is empty. -/
theorem Member.texts_eq (name : String) (values : List String) :
    Member.texts name values =
      Member.optional name (unlessEmpty values (.array (values.map .string))) := by
  cases values <;> rfl

/-- A member with a map is left out if the map is empty. -/
theorem Member.entries_encode {β : Type} (name : String) (values : Entries String β)
    (toJson : β → Json) :
    Member.entries name (values.encode toJson) =
      Member.optional name (unlessEmpty values (.object (values.encode toJson))) := by
  cases values <;> rfl

/-- The value of a field nests within a depth. -/
def Within (depth : Nat) (value : Option Json) : Prop :=
  ∀ json, value = some json → json.depth ≤ depth

section Within

variable {depth : Nat} {β : Type} {toJson : β → Json}

/-- A value that is there nests as deep as its JSON form. -/
theorem within_some {json : Json} (bound : json.depth ≤ depth) : Within depth (some json) := by
  rintro _ ⟨⟩
  exact bound

/-- A part that may be missing nests within a depth if it does so where it is there. -/
theorem within_map {part : Option β}
    (each : ∀ value, part = some value → (toJson value).depth ≤ depth) :
    Within depth (part.map toJson) := by
  intro json present
  obtain ⟨value, found, rfl⟩ := Option.map_eq_some_iff.1 present
  exact each value found

theorem within_text (part : Option String) : Within depth (part.map .string) :=
  within_map fun _ _ => Nat.zero_le depth

/-- A list nests one level deeper than its items; an empty one is left out and takes no level. -/
theorem within_list {values : List β}
    (each : ∀ value ∈ values, 0 < depth ∧ (toJson value).depth ≤ depth - 1) :
    Within depth (unlessEmpty values (.array (values.map toJson))) := by
  intro json present
  cases values with
  | nil => cases present
  | cons value rest =>
      cases present
      have positive := (each value List.mem_cons_self).1
      refine depth_array_le_iff.2 ⟨depth - 1, by omega, ?_⟩
      intro item listed
      obtain ⟨value, member, rfl⟩ := List.mem_map.1 listed
      exact (each value member).2

/-- An object nests one level deeper than its members. -/
theorem depth_object {members : List (String × Json)} (positive : 0 < depth)
    (each : ∀ member ∈ members, member.2.depth ≤ depth - 1) : (Json.object members).depth ≤ depth :=
  depth_object_le_iff.2 ⟨depth - 1, by omega, each⟩

/-- A map nests one level deeper than its values. -/
theorem depth_named {values : Entries String β} (positive : 0 < depth)
    (each : ∀ entry ∈ values, (toJson entry.2).depth ≤ depth - 1) :
    (Json.object (values.encode toJson)).depth ≤ depth := by
  apply depth_object positive
  intro member listed
  obtain ⟨entry, member, rfl⟩ := List.mem_map.1 listed
  exact each entry member

/-- A map that is left out where it is empty. -/
theorem within_named {values : Entries String β}
    (each : ∀ entry ∈ values, 0 < depth ∧ (toJson entry.2).depth ≤ depth - 1) :
    Within depth (unlessEmpty values (.object (values.encode toJson))) := by
  intro json present
  cases values with
  | nil => cases present
  | cons entry rest =>
      cases present
      have positive := (each entry List.mem_cons_self).1
      exact depth_named positive fun other member => (each other member).2

/-- A structure nests one level deeper than the values of its fields. -/
theorem depth_written {α : Type} {rules : List (FieldRule α)} {values : List (Option Json)}
    (within : ∀ value ∈ values, Within depth value) :
    (Json.object (written rules values)).depth ≤ depth + 1 := by
  refine depth_object_le_iff.2 ⟨depth, rfl, ?_⟩
  induction rules generalizing values with
  | nil =>
      intro member listed
      cases values <;> cases listed
  | cons rule rules ih =>
      cases values with
      | nil =>
          intro member listed
          cases listed
      | cons value values =>
          obtain ⟨first, later⟩ := List.forall_mem_cons.1 within
          intro member listed
          rcases List.mem_append.1 listed with own | others
          · cases value with
            | none => cases own
            | some json =>
                rw [List.mem_singleton.1 own]
                exact first json rfl
          · exact ih later member others

end Within

/-! ### Schemas

Schemas nest in schemas. The reader takes the remaining depth as its fuel, and so the induction is on
the depth; `Fits` says that a schema keeps to it at every level. -/

namespace Schema

/-- The properties of a schema are written like any map; the encoder has its own recursion for them
    since they are schemas. -/
theorem propertiesJson_eq_encode (properties : Entries String Schema) :
    propertiesJson properties = properties.encode toJson := by
  induction properties with
  | nil => rfl
  | cons entry rest ih =>
      rw [propertiesJson, ih]
      rfl

/-- The same for a part of a schema that may be missing. -/
theorem optionalJson_eq_map (schema : Option Schema) : optionalJson schema = schema.map toJson := by
  cases schema <;> rfl

/-- The values of the fields of a schema. -/
def values (schema : Schema) : List (Option Json) := [
  schema.type?.map .string, schema.format.map .string, schema.description.map .string,
  unlessEmpty schema.properties
    (.object (Entries.encode toJson schema.properties)),
  schema.items.map toJson, schema.additionalProperties.map toJson, schema.reference.map .string,
  unlessEmpty schema.enumNames (.array (schema.enumNames.map .string)),
  schema.exampleValue.map id, schema.defaultValue.map id]

/-- The JSON form of a schema consists of the values of its fields, in the order of the rules. -/
theorem toJson_eq (schema : Schema) (depth : Nat) (nested below : Reading → Decoded Schema) :
    schema.toJson = .object (written (rules depth nested below) schema.values) := by
  obtain ⟨type, format, description, properties, items, additional, reference, names, ex,
    deflt⟩ := schema
  rw [toJson, propertiesJson_eq_encode, optionalJson_eq_map, optionalJson_eq_map,
    Member.entries_encode, Member.texts_eq]
  simp [written, rules, FieldRule.of, values, Member.text]

/-- A schema is read with its rules, in which items and properties are read at a smaller depth. -/
theorem decode_succ (depth : Nat) :
    decode (depth + 1) =
      FieldRule.decode (rules depth (decode depth) (decode (depth - 1))) {} (depth + 1) := by
  cases depth <;> rfl

/-- A schema is an object and cannot be taken for a missing one. -/
theorem toJson_ne_null (schema : Schema) : schema.toJson ≠ .null := by
  rw [toJson_eq schema 0 (decode 0) (decode 0)]
  exact Json.noConfusion

/-- Reading the fields of a plain schema one after another rebuilds it, if the schemas in it are
    recovered. -/
theorem stores_values {schema : Schema} (plain : schema.Plain P) (depth : Nat)
    {nested below : Reading → Decoded Schema}
    (inner : ∀ part : Schema, part.Plain P → Recovers P nested depth toJson part)
    (deeper : ∀ part : Schema, part.Plain P → Recovers P below (depth - 1) toJson part) :
    StoresAll P depth (rules depth nested below) schema.values {} schema := by
  obtain ⟨node, properties, items, values⟩ := Schema.every_iff.1 plain
  have texts (s : String) : Json.string s ≠ .null ∧ Recovers P text depth .string s :=
    ⟨Json.noConfusion, recovers_text s⟩
  refine .cons (stores_optional rfl fun s _ => texts s) ?_
  refine .cons (stores_optional rfl fun s _ => texts s) ?_
  refine .cons (stores_optional rfl fun s _ => texts s) ?_
  refine .cons (stores_unlessEmpty rfl (recovers_named node.ordered fun entry member => ?_)) ?_
  · exact deeper entry.2 (properties entry member)
  refine .cons (stores_optional rfl fun part present => ⟨part.toJson_ne_null, ?_⟩) ?_
  · exact inner part (items part present)
  refine .cons (stores_optional rfl fun part present => ⟨part.toJson_ne_null, ?_⟩) ?_
  · exact inner part (values part present)
  refine .cons (stores_optional rfl fun s _ => texts s) ?_
  refine .cons (stores_unlessEmpty rfl (recovers_texts _)) ?_
  refine .cons (stores_optional rfl fun value present => ?_) ?_
  · obtain ⟨notNull, plain⟩ := node.exampleValue value present
    exact ⟨notNull, recovers_payload plain⟩
  refine .cons (stores_optional rfl fun value present => ?_) ?_
  · obtain ⟨notNull, plain⟩ := node.defaultValue value present
    exact ⟨notNull, recovers_payload plain⟩
  cases schema
  exact .nil

/-- A plain schema is recovered. -/
theorem recovers {schema : Schema} (plain : schema.Plain P) (depth : Nat) :
    Recovers P (decode depth) depth toJson schema := by
  induction depth using Nat.strongRecOn generalizing schema with
  | ind depth ih =>
      cases depth with
      | zero =>
          intro bound
          rw [toJson_eq schema 0 (decode 0) (decode 0)] at bound
          obtain ⟨_, impossible, _⟩ := depth_object_le_iff.1 bound
          cases impossible
      | succ depth =>
          rw [decode_succ]
          refine recovers_decode (by simp [rules, FieldRule.of]) (toJson_eq schema _ _ _) ?_
          apply stores_values plain
          · exact fun part plain => ih depth (Nat.lt_succ_self depth) plain
          · exact fun part plain => ih (depth - 1) (by omega) plain

/-- The fields of a schema are plain, and their values nest within a depth. -/
structure Fits (P : Number → Prop) (depth : Nat) (schema : Schema) : Prop where
  ordered : Entries.Ascending schema.properties
  properties : ∀ entry ∈ schema.properties,
    0 < depth ∧ entry.2.Plain P ∧ entry.2.toJson.depth ≤ depth - 1
  items : ∀ part, schema.items = some part → part.Plain P ∧ part.toJson.depth ≤ depth
  additionalProperties : ∀ part, schema.additionalProperties = some part →
    part.Plain P ∧ part.toJson.depth ≤ depth
  enumNames : ∀ name ∈ schema.enumNames, 0 < depth
  exampleValue : ∀ value, schema.exampleValue = some value →
    value ≠ .null ∧ value.Plain P ∧ value.depth ≤ depth
  defaultValue : ∀ value, schema.defaultValue = some value →
    value ≠ .null ∧ value.Plain P ∧ value.depth ≤ depth

/-- A schema that fits into a depth is plain. -/
theorem Fits.plain {depth : Nat} {schema : Schema}
    (fits : schema.Fits P depth) : schema.Plain P := by
  refine Schema.every_iff.2 ⟨⟨fits.ordered, ?_, ?_⟩, ?_, ?_, ?_⟩
  · intro value present
    exact ⟨(fits.exampleValue value present).1, (fits.exampleValue value present).2.1⟩
  · intro value present
    exact ⟨(fits.defaultValue value present).1, (fits.defaultValue value present).2.1⟩
  · exact fun entry member => (fits.properties entry member).2.1
  · exact fun part present => (fits.items part present).1
  · exact fun part present => (fits.additionalProperties part present).1

/-- A schema that fits into a depth is written within it, with one level for itself. -/
theorem Fits.depth_le {depth : Nat} {schema : Schema}
    (fits : schema.Fits P depth) : schema.toJson.depth ≤ depth + 1 := by
  rw [toJson_eq schema 0 (decode 0) (decode 0)]
  apply depth_written
  simp only [values, List.forall_mem_cons]
  refine ⟨within_text _, within_text _, within_text _, ?_, ?_, ?_, within_text _, ?_, ?_, ?_,
    by simp⟩
  · exact within_named fun entry member =>
      ⟨(fits.properties entry member).1, (fits.properties entry member).2.2⟩
  · exact within_map fun part present => (fits.items part present).2
  · exact within_map fun part present => (fits.additionalProperties part present).2
  · exact within_list fun name member => ⟨fits.enumNames name member, Nat.zero_le _⟩
  · exact within_map fun value present => (fits.exampleValue value present).2.2
  · exact within_map fun value present => (fits.defaultValue value present).2.2

/-- Every field of a schema keeps that its fields fit, if the readers of inner schemas yield plain ones
    within the depth. -/
theorem keeps_fits {depth : Nat} {nested below : Reading → Decoded Schema}
    (inner : Yields P nested fun part => part.Plain P ∧ part.toJson.depth ≤ depth)
    (deeper : Yields P below fun part => part.Plain P ∧ part.toJson.depth ≤ depth - 1) :
    ∀ rule ∈ rules depth nested below, rule.Keeps P (Fits P depth) := by
  simp only [rules, List.forall_mem_cons]
  refine ⟨?_, ?_, ?_, ?_, ?_, ?_, ?_, ?_, ?_, ?_, by simp⟩
  · exact keeps_of yields_any fun _ _ _ fits => { fits with }
  · exact keeps_of yields_any fun _ _ _ fits => { fits with }
  · exact keeps_of yields_any fun _ _ _ fits => { fits with }
  · refine keeps_of (yields_named deeper) ?_
    rintro _ _ ⟨positive, ordered, each⟩ fits
    exact { fits with
      ordered := ordered
      properties := fun entry member => ⟨positive, each entry member⟩ }
  · exact keeps_of (yields_optional inner) fun _ _ good fits => { fits with items := good }
  · exact keeps_of (yields_optional inner) fun _ _ good fits =>
      { fits with additionalProperties := good }
  · exact keeps_of yields_any fun _ _ _ fits => { fits with }
  · exact keeps_of yields_texts fun _ _ positive fits =>
      { fits with enumNames := fun _ _ => positive }
  · exact keeps_of yields_optional_payload fun _ _ good fits => { fits with exampleValue := good }
  · exact keeps_of yields_optional_payload fun _ _ good fits => { fits with defaultValue := good }

/-- A schema that is read is plain and nests as deep as is allowed. -/
theorem yields (P : Number → Prop) (depth : Nat) :
    Yields P (decode depth) fun schema => schema.Plain P ∧ schema.toJson.depth ≤ depth := by
  induction depth using Nat.strongRecOn with
  | ind depth ih =>
      cases depth with
      | zero =>
          intro reading schema numbers made
          cases numbers <;> cases made
      | succ depth =>
          rw [decode_succ]
          have start : Fits P depth {} := by
            constructor <;> simp [Entries.Ascending]
          have inner := ih depth (Nat.lt_succ_self depth)
          have deeper := ih (depth - 1) (by omega)
          apply yields_of_keeps start (keeps_fits inner deeper)
          · exact fun _ fits => fits.plain
          · exact fun _ fits => fits.depth_le

end Schema

/-- A schema that may be absent is recovered. -/
theorem recovers_schema {part : Option Schema} {depth : Nat}
    (plain : ∀ schema, part = some schema → schema.Plain P) :
    ∀ schema, part = some schema →
      schema.toJson ≠ .null ∧ Recovers P (Schema.decode depth) depth Schema.toJson schema :=
  fun schema present => ⟨schema.toJson_ne_null, Schema.recovers (plain schema present) depth⟩

/-- A text that may be missing is read back and is no `null`. -/
theorem recovers_optionalText {part : Option String} {depth : Nat} :
    ∀ s, part = some s → Json.string s ≠ .null ∧ Recovers P text depth .string s :=
  fun s _ => ⟨Json.noConfusion, recovers_text s⟩

/-! ### Parameters

A parameter has texts, a location and perhaps a schema. -/

namespace Parameter

/-- The values of the fields of a parameter. -/
def values (parameter : Parameter) : List (Option Json) := [
  some (.string parameter.name), some (.string parameter.location.name),
  parameter.description.map .string, some (.bool parameter.required),
  parameter.type?.map .string, parameter.format.map .string, parameter.schema.map Schema.toJson]

/-- The JSON form of a parameter consists of the values of its fields. -/
theorem toJson_eq (parameter : Parameter) (depth : Nat) :
    parameter.toJson = .object (written (rules depth) parameter.values) := by
  simp [toJson, written, rules, FieldRule.of, values, Member.text, Member.optional]

/-- A location is read back from its name. -/
theorem recovers_location (location : ParameterLocation) (depth : Nat) :
    Recovers P (ParameterLocation.decode depth) depth (fun location => .string location.name)
      location := by
  intro _
  refine ⟨.string, ?_⟩
  cases location <;> rfl

/-- A plain parameter is recovered. -/
theorem recovers {parameter : Parameter} (plain : parameter.Plain P) (depth : Nat) :
    Recovers P (decode depth) depth toJson parameter := by
  refine recovers_decode (by simp [rules, FieldRule.of]) (toJson_eq parameter _) ?_
  refine .cons (stores_always (recovers_text _)) ?_
  refine .cons (stores_always (recovers_location _ _)) ?_
  refine .cons (stores_optional rfl recovers_optionalText) ?_
  refine .cons (stores_always (recovers_bool _)) ?_
  refine .cons (stores_optional rfl recovers_optionalText) ?_
  refine .cons (stores_optional rfl recovers_optionalText) ?_
  exact .cons (stores_optional rfl (recovers_schema plain)) .nil

/-- The schema of a parameter is plain and nests within a depth. -/
def Fits (P : Number → Prop) (depth : Nat) (parameter : Parameter) : Prop :=
  ∀ schema, parameter.schema = some schema → schema.Plain P ∧ schema.toJson.depth ≤ depth

/-- A parameter nests one level deeper than its schema. -/
theorem Fits.depth_le {depth : Nat} {parameter : Parameter}
    (fits : parameter.Fits P depth) : parameter.toJson.depth ≤ depth + 1 := by
  rw [toJson_eq parameter 0]
  apply depth_written
  simp only [values, List.forall_mem_cons]
  have always {json : Json} (flat : json.depth = 0) : Within depth (some json) :=
    within_some (by omega)
  refine ⟨always rfl, always rfl, within_text _, always rfl, within_text _, within_text _, ?_, by simp⟩
  exact within_map fun schema present => (fits schema present).2

/-- A parameter that is read is plain and nests as deep as is allowed. -/
theorem yields (P : Number → Prop) (depth : Nat) :
    Yields P (decode depth) fun parameter => parameter.Plain P ∧ parameter.toJson.depth ≤ depth := by
  have keeps : ∀ rule ∈ rules (depth - 1), rule.Keeps P (Fits P (depth - 1)) := by
    simp only [rules, List.forall_mem_cons]
    refine ⟨?_, ?_, ?_, ?_, ?_, ?_, ?_, by simp⟩
    · exact keeps_of yields_any fun _ _ _ fits => fits
    · exact keeps_of yields_any fun _ _ _ fits => fits
    · exact keeps_of yields_any fun _ _ _ fits => fits
    · exact keeps_of yields_any fun _ _ _ fits => fits
    · exact keeps_of yields_any fun _ _ _ fits => fits
    · exact keeps_of yields_any fun _ _ _ fits => fits
    · exact keeps_of (yields_optional (Schema.yields P (depth - 1))) fun _ _ good _ => good
  have start : Fits P (depth - 1) ⟨"", .path, none, false, none, none, none⟩ := by
    rintro _ ⟨⟩
  apply yields_of_keeps start keeps
  · exact fun _ fits schema present => (fits schema present).1
  · exact fun _ fits => fits.depth_le

end Parameter

/-! ### Headers

A header has only texts. -/

namespace Header

/-- The values of the fields of a header. -/
def values (header : Header) : List (Option Json) := [
  some (.string header.type), header.format.map .string, header.description.map .string]

/-- The JSON form of a header consists of the values of its fields. -/
theorem toJson_eq (header : Header) : header.toJson = .object (written rules header.values) := by
  simp [toJson, written, rules, FieldRule.of, values, Member.text, Member.optional]

/-- Every header is recovered, since it has only texts. -/
theorem recovers (header : Header) (depth : Nat) :
    Recovers P (decode depth) depth toJson header := by
  refine recovers_decode (by simp [rules, FieldRule.of]) (toJson_eq header) ?_
  refine .cons (stores_always (recovers_text _)) ?_
  refine .cons (stores_optional rfl recovers_optionalText) ?_
  exact .cons (stores_optional rfl recovers_optionalText) .nil

theorem depth_le (header : Header) : header.toJson.depth ≤ 1 := by
  rw [toJson_eq]
  apply depth_written
  simp only [values, List.forall_mem_cons]
  exact ⟨within_some (Nat.zero_le 0), within_text _, within_text _, by simp⟩

/-- A header that is read fits into the depth of its reader. -/
theorem yields (P : Number → Prop) (depth : Nat) :
    Yields P (decode depth) fun header => header.toJson.depth ≤ depth :=
  yields_of_flat depth_le

end Header

/-! ### Info blocks

An info block has only texts, of which the title and the version are always written. -/

namespace Info

/-- The values of the fields of an info block. -/
def values (info : Info) : List (Option Json) := [
  some (.string info.title), info.description.map .string, some (.string info.version)]

/-- The JSON form of an info block consists of the values of its fields. -/
theorem toJson_eq (info : Info) : info.toJson = .object (written rules info.values) := by
  simp [toJson, written, rules, FieldRule.of, values, Member.text, Member.optional]

/-- Every info block is recovered, since it has only texts. -/
theorem recovers (info : Info) (depth : Nat) : Recovers P (decode depth) depth toJson info := by
  refine recovers_decode (by simp [rules, FieldRule.of]) (toJson_eq info) ?_
  refine .cons (stores_always (recovers_text _)) ?_
  refine .cons (stores_optional rfl recovers_optionalText) ?_
  exact .cons (stores_always (recovers_text _)) .nil

theorem depth_le (info : Info) : info.toJson.depth ≤ 1 := by
  rw [toJson_eq]
  apply depth_written
  simp only [values, List.forall_mem_cons]
  exact ⟨within_some (Nat.zero_le 0), within_text _, within_some (Nat.zero_le 0), by simp⟩

/-- An info block that is read fits into the depth of its reader. -/
theorem yields (P : Number → Prop) (depth : Nat) :
    Yields P (decode depth) fun info => info.toJson.depth ≤ depth :=
  yields_of_flat depth_le

end Info

/-! ### Responses

A response has a schema, and maps of headers and examples. -/

namespace Response

/-- The values of the fields of a response. -/
def values (response : Response) : List (Option Json) := [
  some (.string response.description), response.schema.map Schema.toJson,
  unlessEmpty response.headers
    (.object (response.headers.encode Header.toJson)),
  unlessEmpty response.examples (.object (response.examples.encode id))]

/-- The JSON form of a response consists of the values of its fields. -/
theorem toJson_eq (response : Response) (depth : Nat) :
    response.toJson = .object (written (rules depth) response.values) := by
  have examples : Member.entries "examples" response.examples = Member.optional "examples"
      (unlessEmpty response.examples (.object (response.examples.encode id))) := by
    have same : Entries.encode id response.examples = response.examples := List.map_id _
    rw [← Member.entries_encode, same]
  rw [toJson, Member.entries_encode, examples]
  simp [written, rules, FieldRule.of, values, Member.optional]

/-- A plain response is recovered. -/
theorem recovers {response : Response} (plain : response.Plain P) (depth : Nat) :
    Recovers P (decode depth) depth toJson response := by
  refine recovers_decode (by simp [rules, FieldRule.of]) (toJson_eq response _) ?_
  refine .cons (stores_always (recovers_text _)) ?_
  refine .cons (stores_optional rfl (recovers_schema plain.schema)) ?_
  refine .cons (stores_unlessEmpty rfl (recovers_named plain.headers fun entry _ => ?_)) ?_
  · exact entry.2.recovers _
  refine .cons (stores_unlessEmpty rfl (recovers_named plain.ordered fun entry member => ?_)) .nil
  · exact recovers_payload (plain.examples entry member)

/-- The fields of a response are plain, and their values nest within a depth. -/
structure Fits (P : Number → Prop) (depth : Nat) (response : Response) : Prop where
  schema : ∀ schema, response.schema = some schema → schema.Plain P ∧ schema.toJson.depth ≤ depth
  headersOrdered : response.headers.Ascending
  headers : ∀ entry ∈ response.headers, 0 < depth ∧ entry.2.toJson.depth ≤ depth - 1
  ordered : response.examples.Ascending
  examples : ∀ entry ∈ response.examples, 0 < depth ∧ entry.2.Plain P ∧ entry.2.depth ≤ depth - 1

/-- A response that fits into a depth is plain. -/
theorem Fits.plain {depth : Nat} {response : Response}
    (fits : response.Fits P depth) : response.Plain P where
  schema schema present := (fits.schema schema present).1
  headers := fits.headersOrdered
  ordered := fits.ordered
  examples entry member := (fits.examples entry member).2.1

/-- A response nests one level deeper than its schema, its headers and its examples. -/
theorem Fits.depth_le {depth : Nat} {response : Response}
    (fits : response.Fits P depth) : response.toJson.depth ≤ depth + 1 := by
  rw [toJson_eq response 0]
  apply depth_written
  simp only [values, List.forall_mem_cons]
  refine ⟨within_some (Nat.zero_le depth), ?_, ?_, ?_, by simp⟩
  · exact within_map fun schema present => (fits.schema schema present).2
  · exact within_named fits.headers
  · exact within_named fun entry member =>
      ⟨(fits.examples entry member).1, (fits.examples entry member).2.2⟩

/-- A response that is read is plain and nests as deep as is allowed. -/
theorem yields (P : Number → Prop) (depth : Nat) :
    Yields P (decode depth) fun response => response.Plain P ∧ response.toJson.depth ≤ depth := by
  have keeps : ∀ rule ∈ rules (depth - 1), rule.Keeps P (Fits P (depth - 1)) := by
    simp only [rules, List.forall_mem_cons]
    refine ⟨?_, ?_, ?_, ?_, by simp⟩
    · exact keeps_of yields_any fun _ _ _ fits => { fits with }
    · exact keeps_of (yields_optional (Schema.yields P (depth - 1))) fun _ _ good fits =>
        { fits with schema := good }
    · refine keeps_of (yields_named (Header.yields P (depth - 1 - 1))) ?_
      rintro _ _ ⟨positive, ordered, each⟩ fits
      exact { fits with
        headersOrdered := ordered
        headers := fun entry member => ⟨positive, each entry member⟩ }
    · refine keeps_of (yields_named yields_payload) ?_
      rintro _ _ ⟨positive, ordered, each⟩ fits
      exact { fits with
        ordered := ordered
        examples := fun entry member => ⟨positive, each entry member⟩ }
  have start : Fits P (depth - 1) {} := by
    constructor <;> simp [Entries.Ascending]
  apply yields_of_keeps start keeps
  · exact fun _ fits => fits.plain
  · exact fun _ fits => fits.depth_le

end Response

/-! ### Operations

The responses of an operation are a map whose keys are written as texts, and are read back only if they
are valid. -/

namespace ResponseKey

/-- A key is read back from its text if documents know it. -/
theorem decode_display {key : ResponseKey} (valid : key.Valid) : decode key.display = .ok key := by
  rw [decode, parse?_display valid]

/-- Keys that are read are known to documents. -/
theorem valid_of_decode {name : String} {key : ResponseKey} (made : decode name = .ok key) :
    key.Valid := by
  rw [decode] at made
  split at made
  · rename_i found
    cases made
    exact valid_of_parse? found
  · cases made

end ResponseKey

namespace Operation

/-- The values of the fields of an operation. -/
def values (operation : Operation) : List (Option Json) := [
  some (.string operation.id), operation.description.map .string,
  unlessEmpty operation.tags (.array (operation.tags.map .string)),
  unlessEmpty operation.consumes (.array (operation.consumes.map .string)),
  unlessEmpty operation.produces (.array (operation.produces.map .string)),
  unlessEmpty operation.parameters (.array (operation.parameters.map Parameter.toJson)),
  some (.object (operation.responses.map fun entry => (entry.1.display, entry.2.toJson)))]

/-- The JSON form of an operation consists of the values of its fields. -/
theorem toJson_eq (operation : Operation) (depth : Nat) :
    operation.toJson = .object (written (rules depth) operation.values) := by
  obtain ⟨id, description, tags, consumes, produces, parameters, responses⟩ := operation
  rw [toJson, Member.texts_eq, Member.texts_eq, Member.texts_eq]
  cases parameters <;>
    simp [written, rules, FieldRule.of, values, Member.text, Member.optional, unlessEmpty]

/-- A plain operation is recovered. -/
theorem recovers {operation : Operation} (plain : operation.Plain P)
    (depth : Nat) : Recovers P (decode depth) depth toJson operation := by
  have responses : Recovers P
      (entries (depth - 1) ResponseKey.decode (Response.decode (depth - 1 - 1))) (depth - 1)
      (fun responses => .object (responses.map fun entry => (entry.1.display, entry.2.toJson)))
      operation.responses := by
    apply recovers_entries plain.ordered
    · exact fun entry member => ResponseKey.decode_display (plain.responses entry member).1
    · exact fun entry member => Response.recovers (plain.responses entry member).2 _
  refine recovers_decode (by simp [rules, FieldRule.of]) (toJson_eq operation _) ?_
  refine .cons (stores_always (recovers_text _)) ?_
  refine .cons (stores_optional rfl recovers_optionalText) ?_
  refine .cons (stores_unlessEmpty rfl (recovers_texts _)) ?_
  refine .cons (stores_unlessEmpty rfl (recovers_texts _)) ?_
  refine .cons (stores_unlessEmpty rfl (recovers_texts _)) ?_
  refine .cons (stores_unlessEmpty rfl (recovers_list fun parameter member => ?_)) ?_
  · exact Parameter.recovers (plain.parameters parameter member) _
  refine .cons (stores_always responses) .nil

/-- The fields of an operation are plain, and their values nest within a depth. -/
structure Fits (P : Number → Prop) (depth : Nat) (operation : Operation) : Prop where
  tags : ∀ tag ∈ operation.tags, 0 < depth
  consumes : ∀ mediaType ∈ operation.consumes, 0 < depth
  produces : ∀ mediaType ∈ operation.produces, 0 < depth
  parameters : ∀ parameter ∈ operation.parameters,
    0 < depth ∧ parameter.Plain P ∧ parameter.toJson.depth ≤ depth - 1
  ordered : operation.responses.Ascending
  responses : ∀ entry ∈ operation.responses,
    entry.1.Valid ∧ entry.2.Plain P ∧ entry.2.toJson.depth ≤ depth - 1

/-- An operation that fits into a depth is plain. -/
theorem Fits.plain {depth : Nat} {operation : Operation}
    (fits : operation.Fits P depth) : operation.Plain P where
  parameters parameter member := (fits.parameters parameter member).2.1
  ordered := fits.ordered
  responses entry member := ⟨(fits.responses entry member).1, (fits.responses entry member).2.1⟩

/-- The responses are written even if there are none, so an operation nests two levels. -/
theorem Fits.depth_le {depth : Nat} {operation : Operation}
    (positive : 0 < depth) (fits : operation.Fits P depth) :
    operation.toJson.depth ≤ depth + 1 := by
  rw [toJson_eq operation 0]
  apply depth_written
  simp only [values, List.forall_mem_cons]
  refine ⟨within_some (Nat.zero_le depth), within_text _, ?_, ?_, ?_, ?_, ?_, by simp⟩
  · exact within_list fun tag member => ⟨fits.tags tag member, Nat.zero_le _⟩
  · exact within_list fun mediaType member => ⟨fits.consumes mediaType member, Nat.zero_le _⟩
  · exact within_list fun mediaType member => ⟨fits.produces mediaType member, Nat.zero_le _⟩
  · exact within_list fun parameter member =>
      ⟨(fits.parameters parameter member).1, (fits.parameters parameter member).2.2⟩
  · apply within_some
    apply depth_object positive
    intro member listed
    obtain ⟨entry, member, rfl⟩ := List.mem_map.1 listed
    exact (fits.responses entry member).2.2

/-- An operation that is read is plain and nests as deep as is allowed, if that is two levels. -/
theorem yields (P : Number → Prop) {depth : Nat} (deep : 1 < depth) :
    Yields P (decode depth) fun operation =>
      operation.Plain P ∧ operation.toJson.depth ≤ depth := by
  have keeps : ∀ rule ∈ rules (depth - 1), rule.Keeps P (Fits P (depth - 1)) := by
    simp only [rules, List.forall_mem_cons]
    refine ⟨?_, ?_, ?_, ?_, ?_, ?_, ?_, by simp⟩
    · exact keeps_of yields_any fun _ _ _ fits => { fits with }
    · exact keeps_of yields_any fun _ _ _ fits => { fits with }
    · exact keeps_of yields_texts fun _ _ positive fits => { fits with tags := fun _ _ => positive }
    · exact keeps_of yields_texts fun _ _ positive fits =>
        { fits with consumes := fun _ _ => positive }
    · exact keeps_of yields_texts fun _ _ positive fits =>
        { fits with produces := fun _ _ => positive }
    · refine keeps_of (yields_list (Parameter.yields P (depth - 1 - 1))) ?_
      rintro _ _ ⟨positive, each⟩ fits
      exact { fits with parameters := fun parameter member => ⟨positive, each parameter member⟩ }
    · refine keeps_of (yields_entries (fun _ _ => ResponseKey.valid_of_decode)
        (Response.yields P (depth - 1 - 1))) ?_
      rintro _ _ ⟨_, ordered, each⟩ fits
      exact { fits with ordered := ordered, responses := each }
  have start : Fits P (depth - 1) (Operation.named "") := by
    constructor <;> simp [Operation.named, Entries.Ascending]
  apply yields_of_keeps start keeps
  · exact fun _ fits => fits.plain
  · exact fun _ fits => fits.depth_le (by omega)

end Operation

/-! ### Paths

The fields of a path item are its seven methods. One rule serves for all of them, so that the fields are
read by induction on the list of methods. -/

namespace PathItem

/-- Reading the field of a method replaces its operation, unless the field is `null`. -/
theorem operation?_replace (item : PathItem) (method other : HttpMethod)
    (operation : Option Operation) :
    (item.replace method operation).operation? other =
      if other = method then operation.or (item.operation? other) else item.operation? other := by
  cases operation with
  | none => simp [replace]
  | some operation =>
      rw [replace]
      split
      · rename_i same
        rw [same, operation?_set_self, Option.some_or]
      · rename_i different
        exact operation?_set_of_ne item different operation

/-- The rule of the field of a method. -/
def rule (depth : Nat) (method : HttpMethod) : FieldRule PathItem :=
  .of method.name .optional (optional (Operation.decode depth)) fun v item => item.replace method v

/-- The value of the field of a method. -/
def value (item : PathItem) (method : HttpMethod) : Option Json :=
  (item.operation? method).map Operation.toJson

/-- The JSON form of a path item has one member for each bound method, in the order of the methods. -/
theorem toJson_eq (item : PathItem) (depth : Nat) :
    item.toJson = .object (written (rules depth) (HttpMethod.all.map item.value)) := by
  have fields (methods : List HttpMethod) :
      written (methods.map (rule depth)) (methods.map item.value) =
        methods.flatMap fun method => Member.optional method.name (item.value method) := by
    induction methods with
    | nil => rfl
    | cons method rest ih =>
        rw [List.map_cons, List.map_cons, written, ih, List.flatMap_cons]
        rfl
  exact congrArg Json.object (fields HttpMethod.all).symm

/-- Takes over the operations of some methods from another item. -/
def takeOver (item : PathItem) (methods : List HttpMethod) (before : PathItem) : PathItem :=
  methods.foldl (fun taken method => taken.replace method (item.operation? method)) before

/-- Taking over methods one by one gives the operations of these methods, and leaves the others. -/
theorem operation?_takeOver (item : PathItem) (methods : List HttpMethod) (before : PathItem)
    (other : HttpMethod) :
    (item.takeOver methods before).operation? other =
      if other ∈ methods then (item.operation? other).or (before.operation? other)
      else before.operation? other := by
  induction methods generalizing before with
  | nil => simp [takeOver]
  | cons method rest ih =>
      have step : item.takeOver (method :: rest) before =
          item.takeOver rest (before.replace method (item.operation? method)) := rfl
      rw [step, ih, operation?_replace]
      by_cases first : other = method
      · subst first
        cases item.operation? other <;> simp
      · simp [first]

/-- Taking over all operations gives the item. -/
theorem takeOver_all (item : PathItem) : item.takeOver HttpMethod.all {} = item := by
  apply ext_operation?
  intro method
  have listed : method ∈ HttpMethod.all := by cases method <;> decide
  have absent : ({} : PathItem).operation? method = none := by cases method <;> rfl
  rw [operation?_takeOver, if_pos listed, absent, Option.or_none]

/-- Reading the fields of some methods takes over these methods. -/
theorem stores_takeOver {item : PathItem} (plain : item.Plain P) (depth : Nat)
    (methods : List HttpMethod) (before : PathItem) :
    StoresAll P depth (methods.map (rule depth)) (methods.map item.value) before
      (item.takeOver methods before) := by
  induction methods generalizing before with
  | nil => exact .nil
  | cons method rest ih =>
      refine .cons (stores_optional rfl fun operation present => ⟨?_, ?_⟩) (ih _)
      · rw [Operation.toJson]
        exact Json.noConfusion
      · exact Operation.recovers (plain method operation present) depth

/-- A plain path is recovered. -/
theorem recovers {item : PathItem} (plain : item.Plain P) (depth : Nat) :
    Recovers P (decode depth) depth toJson item := by
  refine recovers_decode ?_ (toJson_eq item _) ?_
  · have names : (rules (depth - 1)).map FieldRule.name = HttpMethod.all.map HttpMethod.name := rfl
    rw [names]
    decide
  · have stores := stores_takeOver plain (depth - 1) HttpMethod.all {}
    rw [takeOver_all] at stores
    exact stores

/-- The operations of a path are plain and nest within a depth. -/
def Fits (P : Number → Prop) (depth : Nat) (item : PathItem) : Prop :=
  ∀ method operation, item.operation? method = some operation →
    operation.Plain P ∧ operation.toJson.depth ≤ depth

/-- A path item nests one level deeper than its operations. -/
theorem Fits.depth_le {depth : Nat} {item : PathItem}
    (fits : item.Fits P depth) : item.toJson.depth ≤ depth + 1 := by
  rw [toJson_eq item 0]
  apply depth_written
  intro value listed
  obtain ⟨method, _, rfl⟩ := List.mem_map.1 listed
  exact within_map fun operation present => (fits method operation present).2

/-- A path that is read is plain and nests as deep as is allowed, if that is three levels. -/
theorem yields (P : Number → Prop) {depth : Nat} (deep : 2 < depth) :
    Yields P (decode depth) fun item => item.Plain P ∧ item.toJson.depth ≤ depth := by
  have keeps : ∀ rule ∈ rules (depth - 1), rule.Keeps P (Fits P (depth - 1)) := by
    intro rule listed
    obtain ⟨method, _, rfl⟩ := List.mem_map.1 listed
    refine keeps_of (yields_optional (Operation.yields P (by omega))) ?_
    intro part item good fits other operation present
    rw [operation?_replace] at present
    split at present
    · rcases Option.or_eq_some_iff.1 present with new | ⟨_, old⟩
      · exact good operation new
      · exact fits other operation old
    · exact fits other operation present
  have start : Fits P (depth - 1) {} := by
    intro method operation present
    cases method <;> cases present
  apply yields_of_keeps start keeps
  · exact fun _ fits method operation present => (fits method operation present).1
  · exact fun _ fits => fits.depth_le

end PathItem

/-! ### Documents

The definitions and the paths of a document are written even where there are none. -/

namespace Document

/-- The values of the fields of a document. -/
def values (document : Document) : List (Option Json) := [
  some (.string document.swagger), document.info.map Info.toJson,
  some (.object (document.definitions.encode Schema.toJson)),
  some (.object (document.paths.encode PathItem.toJson))]

/-- The JSON form of a document consists of the values of its fields. -/
theorem toJson_eq (document : Document) (depth : Nat) :
    document.toJson = .object (written (rules depth) document.values) := by
  simp [toJson, written, rules, FieldRule.of, values, Member.optional]

/-- A plain document is recovered. -/
theorem recovers {document : Document} (plain : document.Plain P) (depth : Nat) :
    Recovers P (decode depth) depth toJson document := by
  have definitions : Recovers P (entries (depth - 1) .ok (Schema.decode (depth - 1 - 1))) (depth - 1)
      (fun values => .object (Entries.encode Schema.toJson values)) document.definitions :=
    recovers_named plain.definitionsOrdered fun entry member =>
      Schema.recovers (plain.definitions entry member) _
  have paths : Recovers P (entries (depth - 1) .ok (PathItem.decode (depth - 1 - 1))) (depth - 1)
      (fun values => .object (Entries.encode PathItem.toJson values)) document.paths :=
    recovers_named plain.pathsOrdered fun entry member =>
      PathItem.recovers (plain.paths entry member) _
  refine recovers_decode (by simp [rules, FieldRule.of]) (toJson_eq document _) ?_
  refine .cons (stores_always (recovers_text _)) ?_
  refine .cons (stores_optional rfl fun info _ => ⟨?_, info.recovers _⟩) ?_
  · rw [Info.toJson]
    exact Json.noConfusion
  refine .cons (stores_always definitions) ?_
  exact .cons (stores_always paths) .nil

/-- The fields of a document are plain, and their values nest within a depth. -/
structure Fits (P : Number → Prop) (depth : Nat) (document : Document) : Prop where
  info : ∀ info, document.info = some info → info.toJson.depth ≤ depth
  definitionsOrdered : document.definitions.Ascending
  definitions : ∀ entry ∈ document.definitions, entry.2.Plain P ∧ entry.2.toJson.depth ≤ depth - 1
  pathsOrdered : document.paths.Ascending
  paths : ∀ entry ∈ document.paths, entry.2.Plain P ∧ entry.2.toJson.depth ≤ depth - 1

/-- A document that fits into a depth is plain. -/
theorem Fits.plain {depth : Nat} {document : Document}
    (fits : document.Fits P depth) : document.Plain P where
  definitionsOrdered := fits.definitionsOrdered
  definitions entry member := (fits.definitions entry member).1
  pathsOrdered := fits.pathsOrdered
  paths entry member := (fits.paths entry member).1

/-- A document nests one level deeper than its paths and its definitions. -/
theorem Fits.depth_le {depth : Nat} {document : Document}
    (positive : 0 < depth) (fits : document.Fits P depth) :
    document.toJson.depth ≤ depth + 1 := by
  rw [toJson_eq document 0]
  apply depth_written
  simp only [values, List.forall_mem_cons]
  refine ⟨within_some (Nat.zero_le depth), within_map fits.info, within_some ?_, within_some ?_,
    by simp⟩
  · exact depth_named positive fun entry member => (fits.definitions entry member).2
  · exact depth_named positive fun entry member => (fits.paths entry member).2

/-- A document that is read is plain and nests as deep as is allowed, if that is the five levels that
    paths take. -/
theorem yields (P : Number → Prop) {depth : Nat} (deep : 4 < depth) :
    Yields P (decode depth) fun document => document.Plain P ∧ document.toJson.depth ≤ depth := by
  have keeps : ∀ rule ∈ rules (depth - 1), rule.Keeps P (Fits P (depth - 1)) := by
    simp only [rules, List.forall_mem_cons]
    refine ⟨?_, ?_, ?_, ?_, by simp⟩
    · exact keeps_of yields_any fun _ _ _ fits => { fits with }
    · exact keeps_of (yields_optional (Info.yields P (depth - 1))) fun _ _ good fits =>
        { fits with info := good }
    · refine keeps_of (yields_named (Schema.yields P (depth - 1 - 1))) ?_
      rintro _ _ ⟨_, ordered, each⟩ fits
      exact { fits with definitionsOrdered := ordered, definitions := each }
    · have deepPaths : 2 < depth - 1 - 1 := by omega
      refine keeps_of (yields_named (PathItem.yields P deepPaths)) ?_
      rintro _ _ ⟨_, ordered, each⟩ fits
      exact { fits with pathsOrdered := ordered, paths := each }
  have start : Fits P (depth - 1) { swagger := "" } := by
    constructor <;> simp [Entries.Ascending]
  apply yields_of_keeps start keeps
  · exact fun _ fits => fits.plain
  · exact fun _ fits => fits.depth_le (by omega)

end Document

end SwaggerDocs
