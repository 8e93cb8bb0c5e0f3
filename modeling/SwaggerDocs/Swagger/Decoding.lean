/-
Module: SwaggerDocs.Swagger.Decoding
Purpose: Reading of documents from JSON texts. The text is read from its beginning, and the first
  offence counts, whether it is against the grammar of JSON or against the shape of a document. A
  structure is an object with its fields as members, or an array with its fields in order.
Main exports: DecodeError, Document.ofText, Schema.decode
-/
import SwaggerDocs.Swagger.Document
import SwaggerDocs.Json.Reading

namespace SwaggerDocs

open Json

/-- Why a text is no document. -/
inductive DecodeError where
  /-- The text is not JSON. -/
  | grammar
  /-- The text is JSON of another shape. -/
  | shape
  /-- A response has a key that is neither the default one nor a status code. -/
  | responseKey (key : String)
deriving Repr, DecidableEq

/-- What the message about an error adds to its kind. -/
def DecodeError.message? : DecodeError → Option String
  | .responseKey key => some ("invalid response key: " ++ key)
  | _ => none

/-- The result of reading a part. -/
abbrev Decoded (α : Type) := Except DecodeError α

namespace Decoded

/-- What is wrong with a reading that has not the kind that is expected. A broken value and one that
    cannot be held offend the grammar; an array or object is not looked into. -/
def mismatch : Reading → DecodeError
  | .broken => .grammar
  | .string none => .grammar
  | .number none => .grammar
  | _ => .shape

/-- A text. -/
def text : Reading → Decoded String
  | .string (some s) => .ok s
  | reading => .error (mismatch reading)

/-- A truth value. -/
def bool : Reading → Decoded Bool
  | .bool b => .ok b
  | reading => .error (mismatch reading)

/-- The null value stands for none. -/
def optional {α : Type} (part : Reading → Decoded α) : Reading → Decoded (Option α)
  | .null => .ok none
  | reading => (part reading).map some

/-- Any value whose arrays and objects nest at most `depth` deep. -/
def payload (depth : Nat) (reading : Reading) : Decoded Json :=
  match reading.value? depth with
  | some value => .ok value
  | none => .error .grammar

/-- The parts of a list up to its end. -/
def items {α : Type} (part : Reading → Decoded α) (closed : Bool) :
    List Reading → Decoded (List α)
  | [] => if closed then .ok [] else .error .grammar
  | item :: rest => do
      let value ← part item
      let values ← items part closed rest
      return value :: values

/-- A list of parts. -/
def list {α : Type} (depth : Nat) (part : Reading → Decoded α) : Reading → Decoded (List α)
  | .array values closed => if depth = 0 then .error .grammar else items part closed values
  | reading => .error (mismatch reading)

/-- The bindings of a map up to its end, in the order of the text. -/
def bindings {κ α : Type} (key : String → Decoded κ) (part : Reading → Decoded α)
    (closed : Bool) : List (Option String × Reading) → Decoded (List (κ × α))
  | [] => if closed then .ok [] else .error .grammar
  | (none, _) :: _ => .error .grammar
  | (some name, item) :: rest => do
      let name ← key name
      let value ← part item
      let values ← bindings key part closed rest
      return (name, value) :: values

/-- A map; the last of several bindings of one key counts. -/
def entries {κ α : Type} [LT κ] [DecidableLT κ] [DecidableEq κ] (depth : Nat)
    (key : String → Decoded κ) (part : Reading → Decoded α) : Reading → Decoded (Entries κ α)
  | .object members closed =>
      if depth = 0 then .error .grammar else (bindings key part closed members).map Entries.ofList
  | reading => .error (mismatch reading)

end Decoded

/-- Whether a field of a structure has to be written. -/
inductive Presence where
  /-- The field is always written. -/
  | required
  /-- The field may lack in an object, and then is absent. -/
  | optional
  /-- The field may lack in an object, and may be among the last ones that lack in an array. -/
  | defaulted
deriving Repr, DecidableEq

/-- How one field of a structure is read. -/
structure FieldRule (α : Type) where
  name : String
  presence : Presence
  /-- Puts the value of a reading into the structure. -/
  store : Reading → α → Decoded α

namespace FieldRule

variable {α : Type}

/-- A field of a name, with the reader of its value and the place where it goes. -/
def of {β : Type} (name : String) (presence : Presence) (part : Reading → Decoded β)
    (place : β → α → α) : FieldRule α :=
  ⟨name, presence, fun reading value => (part reading).map fun b => place b value⟩

/-- The members of an object, from the first to the last. `seen` holds the names of the fields that
    were read. A field that is written twice is an offence before its value is looked at; a member that
    is no field has to be JSON, and no more. -/
def storeMembers (rules : List (FieldRule α)) (closed : Bool) :
    List (Option String × Reading) → List String → α → Decoded α
  | [], seen, value =>
      if !closed then .error .grammar
      else if rules.all fun rule => rule.presence ≠ .required || seen.contains rule.name then
        .ok value
      else .error .shape
  | (none, _) :: _, _, _ => .error .grammar
  | (some name, item) :: rest, seen, value =>
      match rules.find? fun rule => rule.name = name with
      | some rule =>
          if seen.contains name then .error .shape
          else
            match rule.store item value with
            | .ok value => storeMembers rules closed rest (name :: seen) value
            | .error e => .error e
      | none => if item.wellFormed then storeMembers rules closed rest seen value else .error .grammar

/-- The items of an array, one for each field. -/
def storeItems (closed : Bool) : List (FieldRule α) → List Reading → α → Decoded α
  | [], [], value => if closed then .ok value else .error .grammar
  | [], _ :: _, _ => .error .grammar
  | rule :: rules, [], value =>
      if !closed then .error .grammar
      else if rule.presence = .defaulted then storeItems closed rules [] value
      else .error .shape
  | rule :: rules, item :: rest, value =>
      match rule.store item value with
      | .ok value => storeItems closed rules rest value
      | .error e => .error e

/-- A structure, starting from a value whose required fields are still to be written. -/
def decode (rules : List (FieldRule α)) (initial : α) (depth : Nat) : Reading → Decoded α
  | .object members closed =>
      if depth = 0 then .error .grammar else storeMembers rules closed members [] initial
  | .array items closed =>
      if depth = 0 then .error .grammar else storeItems closed rules items initial
  | reading => .error (Decoded.mismatch reading)

end FieldRule

open Decoded

namespace Schema

/-- The fields of a schema inside `depth` levels; `nested` reads a schema there, and `below` one that
    is a value of a map there. -/
def rules (depth : Nat) (nested below : Reading → Decoded Schema) : List (FieldRule Schema) := [
  .of "type" .optional (optional text) fun v s => { s with type? := v },
  .of "format" .optional (optional text) fun v s => { s with format := v },
  .of "description" .optional (optional text) fun v s => { s with description := v },
  .of "properties" .defaulted (entries depth .ok below) fun v s => { s with properties := v },
  .of "items" .optional (optional nested) fun v s => { s with items := v },
  .of "additionalProperties" .optional (optional nested) fun v s =>
    { s with additionalProperties := v },
  .of "$ref" .optional (optional text) fun v s => { s with reference := v },
  .of "enum" .defaulted (list depth text) fun v s => { s with enumNames := v },
  .of "example" .optional (optional (payload depth)) fun v s => { s with exampleValue := v },
  .of "default" .optional (optional (payload depth)) fun v s => { s with defaultValue := v }]

/-- A schema that nests at most `depth` levels deep. -/
def decode : Nat → Reading → Decoded Schema
  | 0 => FieldRule.decode [] {} 0
  | 1 => FieldRule.decode (rules 0 (decode 0) (decode 0)) {} 1
  | depth + 2 =>
      FieldRule.decode (rules (depth + 1) (decode (depth + 1)) (decode depth)) {} (depth + 2)

end Schema

namespace ParameterLocation

/-- The location of a name that was read. -/
def decodeName (name : String) : Decoded ParameterLocation :=
  match ofName? name with
  | some location => .ok location
  | none => .error .shape

/-- A location is written by its name, or by an object whose only member has that name and the value
    null. -/
def decode (depth : Nat) : Reading → Decoded ParameterLocation
  | .string (some name) => decodeName name
  | .object members closed =>
      if depth = 0 then .error .grammar
      else
        match members with
        | (some name, value) :: rest =>
            match decodeName name, value with
            | .error e, _ => .error e
            | .ok location, .null => if rest.isEmpty && closed then .ok location else .error .grammar
            | .ok _, value => .error (mismatch value)
        | _ => .error .grammar
  | _ => .error .grammar

end ParameterLocation

/-- The fields of a parameter inside `depth` levels. -/
def Parameter.rules (depth : Nat) : List (FieldRule Parameter) := [
  .of "name" .required text fun v p => { p with name := v },
  .of "in" .required (ParameterLocation.decode depth) fun v p => { p with location := v },
  .of "description" .optional (optional text) fun v p => { p with description := v },
  .of "required" .required bool fun v p => { p with required := v },
  .of "type" .optional (optional text) fun v p => { p with type? := v },
  .of "format" .optional (optional text) fun v p => { p with format := v },
  .of "schema" .optional (optional (Schema.decode depth)) fun v p => { p with schema := v }]

/-- A parameter that nests at most `depth` levels deep. -/
def Parameter.decode (depth : Nat) : Reading → Decoded Parameter :=
  FieldRule.decode (Parameter.rules (depth - 1)) ⟨"", .path, none, false, none, none, none⟩ depth

/-- The fields of a header. -/
def Header.rules : List (FieldRule Header) := [
  .of "type" .required text fun v h => { h with type := v },
  .of "format" .optional (optional text) fun v h => { h with format := v },
  .of "description" .optional (optional text) fun v h => { h with description := v }]

/-- A header that nests at most `depth` levels deep. -/
def Header.decode (depth : Nat) : Reading → Decoded Header :=
  FieldRule.decode Header.rules ⟨"", none, none⟩ depth

/-- The fields of a response inside `depth` levels. -/
def Response.rules (depth : Nat) : List (FieldRule Response) := [
  .of "description" .defaulted text fun v r => { r with description := v },
  .of "schema" .optional (optional (Schema.decode depth)) fun v r => { r with schema := v },
  .of "headers" .defaulted (entries depth .ok (Header.decode (depth - 1)))
    fun v r => { r with headers := v },
  .of "examples" .defaulted (entries depth .ok (payload (depth - 1)))
    fun v r => { r with examples := v }]

/-- A response that nests at most `depth` levels deep. -/
def Response.decode (depth : Nat) : Reading → Decoded Response :=
  FieldRule.decode (Response.rules (depth - 1)) {} depth

/-- The key of a response. -/
def ResponseKey.decode (key : String) : Decoded ResponseKey :=
  match ResponseKey.parse? key with
  | some key => .ok key
  | none => .error (.responseKey key)

/-- The fields of an operation inside `depth` levels. -/
def Operation.rules (depth : Nat) : List (FieldRule Operation) := [
  .of "operationId" .required text fun v o => { o with id := v },
  .of "description" .optional (optional text) fun v o => { o with description := v },
  .of "tags" .defaulted (list depth text) fun v o => { o with tags := v },
  .of "consumes" .defaulted (list depth text) fun v o => { o with consumes := v },
  .of "produces" .defaulted (list depth text) fun v o => { o with produces := v },
  .of "parameters" .defaulted (list depth (Parameter.decode (depth - 1)))
    fun v o => { o with parameters := v },
  .of "responses" .defaulted (entries depth ResponseKey.decode (Response.decode (depth - 1)))
    fun v o => { o with responses := v }]

/-- An operation that nests at most `depth` levels deep. -/
def Operation.decode (depth : Nat) : Reading → Decoded Operation :=
  FieldRule.decode (Operation.rules (depth - 1)) (Operation.named "") depth

/-- Puts the operation of a method, which may be absent. -/
def PathItem.replace (item : PathItem) (method : HttpMethod) (operation : Option Operation) :
    PathItem :=
  match operation with
  | some operation => item.set method operation
  | none => item

/-- The fields of the operations of a path inside `depth` levels. -/
def PathItem.rules (depth : Nat) : List (FieldRule PathItem) :=
  HttpMethod.all.map fun method =>
    .of method.name .optional (optional (Operation.decode depth)) fun v item => item.replace method v

/-- The operations of a path that nest at most `depth` levels deep. -/
def PathItem.decode (depth : Nat) : Reading → Decoded PathItem :=
  FieldRule.decode (PathItem.rules (depth - 1)) {} depth

/-- The fields of an info block. -/
def Info.rules : List (FieldRule Info) := [
  .of "title" .required text fun v i => { i with title := v },
  .of "description" .optional (optional text) fun v i => { i with description := v },
  .of "version" .required text fun v i => { i with version := v }]

/-- An info block that nests at most `depth` levels deep. -/
def Info.decode (depth : Nat) : Reading → Decoded Info :=
  FieldRule.decode Info.rules ⟨"", none, ""⟩ depth

namespace Document

/-- The fields of a document inside `depth` levels. -/
def rules (depth : Nat) : List (FieldRule Document) := [
  .of "swagger" .required text fun v d => { d with swagger := v },
  .of "info" .optional (optional (Info.decode depth)) fun v d => { d with info := v },
  .of "definitions" .defaulted (entries depth .ok (Schema.decode (depth - 1)))
    fun v d => { d with definitions := v },
  .of "paths" .defaulted (entries depth .ok (PathItem.decode (depth - 1)))
    fun v d => { d with paths := v }]

/-- A document that nests at most `depth` levels deep. -/
def decode (depth : Nat) : Reading → Decoded Document :=
  FieldRule.decode (rules (depth - 1)) { swagger := "" } depth

/-- The document that a text holds, with nothing but blank characters after it. -/
def ofText (text : String) : Decoded Document :=
  match Reading.ofText text with
  | (reading, onlyBlanksFollow) =>
      match decode depthLimit reading with
      | .error e => .error e
      | .ok document => if onlyBlanksFollow then .ok document else .error .grammar

end Document

end SwaggerDocs
