/-
Module: SwaggerDocs.Proofs.Swagger.Fields
Purpose: Reading of structures, field by field. A reader recovers a part if it reads the part back from
  its JSON form, as long as that nests no deeper than the reader allows; it yields a property if all parts
  that it reads have it. Both pass from the fields of a structure to the structure.
Main exports: Recovers, Yields, FieldRule.Stores, recovers_decode, yields_decode
-/
import SwaggerDocs.Proofs.Json.Values
import SwaggerDocs.Swagger.Decoding
import SwaggerDocs.Swagger.Encoding

namespace SwaggerDocs

open Json Decoded

/-- If the JSON form of a part keeps to a limit on the depth, its numbers have a property and a reader
    reads the part back from it. -/
def Recovers {β : Type} (P : Number → Prop) (read : Reading → Decoded β) (depth : Nat)
    (toJson : β → Json) (part : β) : Prop :=
  (toJson part).depth ≤ depth →
    (toJson part).Numbers P ∧ read (Reading.ofJson (toJson part)) = .ok part

/-- All parts that a reader makes of readings whose numbers have a property are good. -/
def Yields {β : Type} (P : Number → Prop) (read : Reading → Decoded β) (Good : β → Prop) : Prop :=
  ∀ reading part, reading.Numbers P → read reading = .ok part → Good part

namespace Decoded

variable {α β : Type}

/-- A changed result stands for a result that was there before. -/
theorem of_map_eq_ok {f : α → β} {result : Decoded α} {b : β} (made : result.map f = .ok b) :
    ∃ a, result = .ok a ∧ f a = b := by
  cases result with
  | error => cases made
  | ok a => exact ⟨a, rfl, Except.ok.inj made⟩

/-- Where two steps in a row succeed, the first one did. -/
theorem of_bind_eq_ok {f : α → Decoded β} {result : Decoded α} {b : β}
    (made : (result >>= f) = .ok b) : ∃ a, result = .ok a ∧ f a = .ok b := by
  cases result with
  | error => cases made
  | ok a => exact ⟨a, rfl, made⟩

end Decoded

/-! ### Values of fields

Readers of texts, payloads, lists and maps recover what was written. The depth that a reader allows goes
down by one in each list and map, and so does the depth of their parts. -/

section Values

variable {β : Type} {depth : Nat} {P : Number → Prop} {read : Reading → Decoded β}
  {toJson : β → Json} {Good : β → Prop}

/-- A text is read back at any depth, since it does not nest. -/
theorem recovers_text (s : String) : Recovers P text depth .string s := fun _ => ⟨.string, rfl⟩

theorem recovers_bool (b : Bool) : Recovers P bool depth .bool b := fun _ => ⟨.bool, rfl⟩

/-- A payload is read back as it is if its keys ascend; it may nest as deep as the reader allows. -/
theorem recovers_payload {value : Json} (plain : value.Plain P) :
    Recovers P (payload depth) depth id value := by
  intro bound
  refine ⟨plain.numbers, ?_⟩
  rw [payload, id, Reading.value?_ofJson plain bound]

/-- A field that may be `null` is read like one that may not, unless it is `null`. -/
theorem optional_ofJson {value : Json} (present : value ≠ .null) :
    optional read (Reading.ofJson value) = (read (Reading.ofJson value)).map some := by
  cases value with
  | null => exact absurd rfl present
  | bool => rfl
  | number => rfl
  | string => rfl
  | array => rfl
  | object => rfl

/-- A list is recovered if its items are, one level further down. -/
theorem recovers_list {values : List β}
    (each : ∀ value ∈ values, Recovers P read (depth - 1) toJson value) :
    Recovers P (list depth read) depth (fun values => .array (values.map toJson)) values := by
  intro bound
  obtain ⟨inner, rfl, bounds⟩ := depth_array_le_iff.1 bound
  have recovered : ∀ value ∈ values, (toJson value).Numbers P ∧
      read (Reading.ofJson (toJson value)) = .ok value :=
    fun value member => each value member (bounds _ (List.mem_map_of_mem member))
  have parts : items read true ((values.map toJson).map Reading.ofJson) = .ok values := by
    clear bound bounds each
    induction values with
    | nil => rfl
    | cons value rest ih =>
        obtain ⟨first, later⟩ := List.forall_mem_cons.1 recovered
        rw [List.map_cons, List.map_cons, items, first.2, ih later]
        rfl
  constructor
  · apply Json.Numbers.array
    intro item listed
    obtain ⟨value, member, rfl⟩ := List.mem_map.1 listed
    exact (recovered value member).1
  · rw [Reading.ofJson, Reading.ofItems_eq_map, list, if_neg (Nat.succ_ne_zero inner), parts]

/-- A map is recovered if its values are, and if its keys can be told from the texts that they are
    written as. The reader sorts what it reads, so the map has to ascend. -/
theorem recovers_entries {κ : Type} [LinearOrder κ] {key : String → Decoded κ} {display : κ → String}
    {values : Entries κ β} (ordered : values.Ascending)
    (keys : ∀ entry ∈ values, key (display entry.1) = .ok entry.1)
    (each : ∀ entry ∈ values, Recovers P read (depth - 1) toJson entry.2) :
    Recovers P (entries depth key read) depth
      (fun values => .object (values.map fun entry => (display entry.1, toJson entry.2))) values := by
  intro bound
  obtain ⟨inner, rfl, bounds⟩ := depth_object_le_iff.1 bound
  have recovered : ∀ entry ∈ values, (toJson entry.2).Numbers P ∧
      read (Reading.ofJson (toJson entry.2)) = .ok entry.2 :=
    fun entry member => each entry member (bounds _ (List.mem_map_of_mem member))
  have parts : bindings key read true (Reading.ofMembers
      (values.map fun entry => (display entry.1, toJson entry.2))) = .ok values := by
    clear bound bounds each ordered
    induction values with
    | nil => rfl
    | cons entry rest ih =>
        obtain ⟨firstKey, laterKeys⟩ := List.forall_mem_cons.1 keys
        obtain ⟨first, later⟩ := List.forall_mem_cons.1 recovered
        rw [List.map_cons, Reading.ofMembers, bindings, firstKey, first.2, ih laterKeys later]
        rfl
  constructor
  · apply Json.Numbers.object
    intro member listed
    obtain ⟨entry, member, rfl⟩ := List.mem_map.1 listed
    exact (recovered entry member).1
  · rw [Reading.ofJson, entries, if_neg (Nat.succ_ne_zero inner), parts]
    exact congrArg Except.ok (Entries.ofList_of_ascending ordered)

theorem recovers_texts (values : List String) :
    Recovers P (list depth text) depth (fun values => .array (values.map .string)) values :=
  recovers_list fun s _ => recovers_text s

/-- A map with names as keys. -/
theorem recovers_named {values : Entries String β} (ordered : values.Ascending)
    (each : ∀ entry ∈ values, Recovers P read (depth - 1) toJson entry.2) :
    Recovers P (entries depth .ok read) depth (fun values => .object (Entries.encode toJson values))
      values := by
  have recovered : Recovers P (entries depth .ok read) depth
      (fun values => .object (values.map fun entry => (id entry.1, toJson entry.2))) values :=
    recovers_entries ordered (fun _ _ => rfl) each
  exact recovered

end Values

/-! ### Structures

A structure is read member by member, each member by the rule of its field. A field that has no value is
not written; then its rule must not ask for it, and the structure keeps what it had. -/

/-- The member of a list or map, which is left out if that is empty. -/
def unlessEmpty {β : Type} (values : List β) (json : Json) : Option Json :=
  match values with
  | [] => none
  | _ => some json

namespace FieldRule

variable {α : Type}

/-- What the reader of a field does with a reading: it reads the part and puts it in its place. -/
theorem store_of {β : Type} (name : String) (presence : Presence) (read : Reading → Decoded β)
    (place : β → α → α) (reading : Reading) (value : α) :
    (FieldRule.of name presence read place).store reading value =
      (read reading).map fun part => place part value := rfl

/-- The members of the fields that have a value. -/
def written : List (FieldRule α) → List (Option Json) → List (String × Json)
  | rule :: rules, value :: values => Member.optional rule.name value ++ written rules values
  | _, _ => []

/-- Reading a field changes a structure as it should: a value within the depth is stored, and a field
    that is left out may be and keeps its value. -/
def Stores (P : Number → Prop) (depth : Nat) (rule : FieldRule α) (value : Option Json)
    (before after : α) : Prop :=
  match value with
  | some value =>
      value.depth ≤ depth →
        value.Numbers P ∧ rule.store (Reading.ofJson value) before = .ok after
  | none => rule.presence ≠ .required ∧ after = before

/-- Reading several fields changes a structure as it should. -/
inductive StoresAll (P : Number → Prop) (depth : Nat) :
    List (FieldRule α) → List (Option Json) → α → α → Prop where
  | nil {value : α} : StoresAll P depth [] [] value value
  | cons {rule : FieldRule α} {rules : List (FieldRule α)} {value : Option Json}
      {values : List (Option Json)} {before between after : α}
      (first : rule.Stores P depth value before between)
      (rest : StoresAll P depth rules values between after) :
      StoresAll P depth (rule :: rules) (value :: values) before after

/-- Fields with distinct names are found by their names. -/
theorem find?_of_nodup {rules : List (FieldRule α)} (distinct : (rules.map FieldRule.name).Nodup)
    {rule : FieldRule α} (member : rule ∈ rules) :
    rules.find? (fun other => other.name = rule.name) = some rule := by
  induction rules with
  | nil => cases member
  | cons head rest ih =>
      rw [List.map_cons, List.nodup_cons] at distinct
      rcases List.mem_cons.1 member with rfl | later
      · simp
      · have other : head.name ≠ rule.name := by
          intro same
          exact distinct.1 (same ▸ List.mem_map_of_mem later)
        rw [List.find?_cons_of_neg (by simpa using other), ih distinct.2 later]

/-- The members of a structure have no other numbers than its fields. -/
theorem numbers_written {P : Number → Prop} {depth : Nat} {rules : List (FieldRule α)}
    {values : List (Option Json)} {before after : α}
    (stores : StoresAll P depth rules values before after)
    (bound : ∀ member ∈ written rules values, member.2.depth ≤ depth) :
    ∀ member ∈ written rules values, member.2.Numbers P := by
  induction stores with
  | nil =>
      intro member absent
      cases absent
  | @cons rule rules value values before between after first rest ih =>
      cases value with
      | none => exact ih bound
      | some value =>
          obtain ⟨own, others⟩ := List.forall_mem_cons.1 bound
          exact List.forall_mem_cons.2 ⟨(first own).1, ih others⟩

/-- The members of the fields that are still to be read are stored one after another. -/
theorem storeMembers_written {P : Number → Prop} {depth : Nat} {rules remaining : List (FieldRule α)}
    {values : List (Option Json)} {before after : α} {seen : List String}
    (distinct : (rules.map FieldRule.name).Nodup)
    (stores : StoresAll P depth remaining values before after)
    (bound : ∀ member ∈ written remaining values, member.2.depth ≤ depth)
    (own : ∀ rule ∈ remaining, rule ∈ rules)
    (remainingDistinct : (remaining.map FieldRule.name).Nodup)
    (fresh : ∀ rule ∈ remaining, rule.name ∉ seen)
    (complete : ∀ rule ∈ rules, rule.presence = .required → rule ∈ remaining ∨ rule.name ∈ seen) :
    storeMembers rules true (Reading.ofMembers (written remaining values)) seen before =
      .ok after := by
  induction stores generalizing seen with
  | nil =>
      have all : (rules.all fun rule =>
          rule.presence ≠ .required || seen.contains rule.name) = true := by
        rw [List.all_eq_true]
        intro rule member
        by_cases required : rule.presence = .required
        · rcases complete rule member required with absent | read
          · cases absent
          · simp [read]
        · simp [required]
      rw [written, Reading.ofMembers, storeMembers, if_neg (by simp), if_pos all]
      simp
  | @cons rule rules' value values before between after first rest ih =>
      rw [List.map_cons, List.nodup_cons] at remainingDistinct
      obtain ⟨ownFirst, ownRest⟩ := List.forall_mem_cons.1 own
      obtain ⟨freshFirst, freshRest⟩ := List.forall_mem_cons.1 fresh
      cases value with
      | none =>
          -- A field that is not written stores nothing, and need not be read.
          obtain ⟨optional, rfl⟩ := first
          refine ih bound ownRest remainingDistinct.2 freshRest ?_
          intro other member required
          rcases complete other member required with listed | read
          · rcases List.mem_cons.1 listed with rfl | later
            · exact absurd required optional
            · exact Or.inl later
          · exact Or.inr read
      | some value =>
          -- The rule is looked up among all rules, and not among those that are left.
          have bounds := List.forall_mem_cons.1 bound
          have stored := (first bounds.1).2
          rw [written, Member.optional, List.singleton_append, Reading.ofMembers, storeMembers,
            find?_of_nodup distinct ownFirst]
          have unread : ¬seen.contains rule.name = true := by simpa using freshFirst
          simp only [stored]
          rw [if_neg unread]
          refine ih bounds.2 ownRest remainingDistinct.2 ?_ ?_
          · intro other member read
            rcases List.mem_cons.1 read with same | read
            · exact remainingDistinct.1 (same ▸ List.mem_map_of_mem member)
            · exact freshRest other member read
          · intro other member required
            rcases complete other member required with listed | read
            · rcases List.mem_cons.1 listed with rfl | later
              · exact Or.inr List.mem_cons_self
              · exact Or.inl later
            · exact Or.inr (List.mem_cons_of_mem _ read)

end FieldRule

/-- A structure is recovered if its fields are. -/
theorem recovers_decode {α : Type} {P : Number → Prop} {depth : Nat} {rules : List (FieldRule α)}
    {values : List (Option Json)} {initial value : α} {toJson : α → Json}
    (distinct : (rules.map FieldRule.name).Nodup)
    (form : toJson value = .object (FieldRule.written rules values))
    (stores : FieldRule.StoresAll P (depth - 1) rules values initial value) :
    Recovers P (FieldRule.decode rules initial depth) depth toJson value := by
  intro bound
  rw [form] at bound ⊢
  obtain ⟨inner, rfl, bounds⟩ := depth_object_le_iff.1 bound
  refine ⟨.object (FieldRule.numbers_written stores bounds), ?_⟩
  rw [Reading.ofJson, FieldRule.decode, if_neg (Nat.succ_ne_zero inner)]
  apply FieldRule.storeMembers_written distinct stores bounds
  · exact fun _ member => member
  · exact distinct
  · exact fun _ _ absent => by cases absent
  · exact fun _ member _ => Or.inl member

namespace FieldRule

variable {α β : Type} {P : Number → Prop} {depth : Nat} {name : String}
  {read : Reading → Decoded β} {toJson : β → Json} {before : α}

/-- A field that is always written. -/
theorem stores_always {presence : Presence} {place : β → α → α} {part : β}
    (recovers : Recovers P read depth toJson part) :
    (FieldRule.of name presence read place).Stores P depth (some (toJson part)) before
      (place part before) := by
  intro bound
  obtain ⟨numbers, made⟩ := recovers bound
  refine ⟨numbers, ?_⟩
  rw [store_of, made]
  rfl

/-- A field that is left out if it has no value. -/
theorem stores_optional {place : Option β → α → α} {part : Option β}
    (unset : place none before = before)
    (recovers : ∀ value, part = some value →
      toJson value ≠ .null ∧ Recovers P read depth toJson value) :
    (FieldRule.of name .optional (optional read) place).Stores P depth (part.map toJson) before
      (place part before) := by
  cases part with
  | none => exact ⟨by simp [FieldRule.of], unset⟩
  | some value =>
      obtain ⟨present, recovered⟩ := recovers value rfl
      intro bound
      obtain ⟨numbers, made⟩ := recovered bound
      refine ⟨numbers, ?_⟩
      rw [store_of, optional_ofJson present, made]
      rfl

/-- A field that is left out if it is empty. -/
theorem stores_unlessEmpty {parts : List β} {read : Reading → Decoded (List β)}
    {toJson : List β → Json} {place : List β → α → α} (unset : place [] before = before)
    (recovers : Recovers P read depth toJson parts) :
    (FieldRule.of name .defaulted read place).Stores P depth (unlessEmpty parts (toJson parts)) before
      (place parts before) := by
  cases parts with
  | nil => exact ⟨by simp [FieldRule.of], unset⟩
  | cons part rest =>
      intro bound
      obtain ⟨numbers, made⟩ := recovers bound
      refine ⟨numbers, ?_⟩
      rw [store_of, made]
      rfl

end FieldRule

/-! ### What readers yield

The other direction: what is read has the properties that written parts have. The numbers of a reading
are given, since a text can hold numbers that no written value has. -/

section Yields

variable {β : Type} {depth : Nat} {P : Number → Prop} {read : Reading → Decoded β}
  {Good : β → Prop}

theorem yields_any : Yields P read fun _ => True := fun _ _ _ _ => trivial

/-- A payload that is read has ascending keys and keeps to the depth of its reader. -/
theorem yields_payload :
    Yields P (payload depth) fun value => value.Plain P ∧ value.depth ≤ depth := by
  intro reading value numbers made
  rw [payload] at made
  split at made
  · rename_i found
    cases made
    exact Reading.plain_of_value? numbers found
  · cases made

/-- What is read as present is not null. -/
theorem of_optional_eq_some {reading : Reading} {value : β}
    (made : optional read reading = .ok (some value)) :
    reading ≠ .null ∧ read reading = .ok value := by
  cases reading with
  | null => cases made
  | _ =>
      obtain ⟨part, partMade, same⟩ := of_map_eq_ok made
      cases same
      exact ⟨Reading.noConfusion, partMade⟩

/-- What holds of all parts that are read holds of those that may be `null`, if they are there. -/
theorem yields_optional (yields : Yields P read Good) :
    Yields P (optional read) fun part => ∀ value, part = some value → Good value := by
  rintro reading _ numbers made value rfl
  exact yields reading value numbers (of_optional_eq_some made).2

/-- A payload that may be `null` is no `null` if it is there. -/
theorem yields_optional_payload :
    Yields P (optional (payload depth)) fun part => ∀ value, part = some value →
      value ≠ .null ∧ value.Plain P ∧ value.depth ≤ depth := by
  rintro reading _ numbers made value rfl
  obtain ⟨present, valueMade⟩ := of_optional_eq_some made
  refine ⟨?_, yields_payload reading value numbers valueMade⟩
  rintro rfl
  rw [payload] at valueMade
  split at valueMade
  · rename_i found
    cases valueMade
    exact present (Reading.eq_null_of_value? found)
  · cases valueMade

/-- The induction behind `yields_list`: each item of a list was made by the reader of items. -/
theorem good_of_items (yields : Yields P read Good) {closed : Bool} {readings : List Reading}
    {values : List β} (numbers : ∀ reading ∈ readings, reading.Numbers P)
    (made : items read closed readings = .ok values) : ∀ value ∈ values, Good value := by
  induction readings generalizing values with
  | nil =>
      rw [items] at made
      split at made
      · cases made
        intro value absent
        cases absent
      · cases made
  | cons reading rest ih =>
      obtain ⟨value, valueMade, made⟩ := of_bind_eq_ok made
      obtain ⟨more, restMade, same⟩ := of_bind_eq_ok made
      cases same
      obtain ⟨first, later⟩ := List.forall_mem_cons.1 numbers
      exact List.forall_mem_cons.2 ⟨yields reading value first valueMade, ih later restMade⟩

/-- The items of a list are good if the reader of items yields good ones. A list needs a level of depth,
    even an empty one. -/
theorem yields_list (yields : Yields P read Good) :
    Yields P (list depth read) fun values => 0 < depth ∧ ∀ value ∈ values, Good value := by
  intro reading values numbers made
  cases numbers with
  | array each =>
      rw [list] at made
      split at made
      · cases made
      · rename_i allowed
        exact ⟨Nat.pos_of_ne_zero allowed, good_of_items yields each made⟩
  | _ => cases made

/-- The induction behind `yields_entries`: each key and each value was made by its reader. -/
theorem good_of_bindings {κ : Type} {key : String → Decoded κ} {Known : κ → Prop}
    (keys : ∀ name made, key name = .ok made → Known made) (yields : Yields P read Good)
    {closed : Bool} {members : List (Option String × Reading)} {values : List (κ × β)}
    (numbers : ∀ member ∈ members, member.2.Numbers P)
    (made : bindings key read closed members = .ok values) :
    ∀ entry ∈ values, Known entry.1 ∧ Good entry.2 := by
  induction members generalizing values with
  | nil =>
      rw [bindings] at made
      split at made
      · cases made
        intro entry absent
        cases absent
      · cases made
  | cons member rest ih =>
      obtain ⟨name?, reading⟩ := member
      cases name? with
      | none => cases made
      | some name =>
          obtain ⟨bound, keyMade, made⟩ := of_bind_eq_ok made
          obtain ⟨value, valueMade, made⟩ := of_bind_eq_ok made
          obtain ⟨more, restMade, same⟩ := of_bind_eq_ok made
          cases same
          obtain ⟨first, later⟩ := List.forall_mem_cons.1 numbers
          exact List.forall_mem_cons.2
            ⟨⟨keys name bound keyMade, yields reading value first valueMade⟩, ih later restMade⟩

/-- A map that is read ascends, whatever the order of its text; its keys and values are what their
    readers yield. -/
theorem yields_entries {κ : Type} [LinearOrder κ] {key : String → Decoded κ} {Known : κ → Prop}
    (keys : ∀ name made, key name = .ok made → Known made) (yields : Yields P read Good) :
    Yields P (entries depth key read) fun values =>
      0 < depth ∧ values.Ascending ∧ ∀ entry ∈ values, Known entry.1 ∧ Good entry.2 := by
  intro reading values numbers made
  cases numbers with
  | object each =>
      rw [entries] at made
      split at made
      · cases made
      · rename_i allowed
        obtain ⟨bound, boundMade, rfl⟩ := of_map_eq_ok made
        refine ⟨Nat.pos_of_ne_zero allowed, Entries.ascending_ofList bound, fun entry member => ?_⟩
        exact good_of_bindings keys yields each boundMade entry (Entries.mem_of_mem_ofList member)
  | _ => cases made

/-- A list of texts needs a level of depth and is otherwise arbitrary. -/
theorem yields_texts : Yields P (list depth text) fun _ => 0 < depth := by
  have any : Yields P text fun _ => True := yields_any
  exact fun reading values numbers made => (yields_list any reading values numbers made).1

theorem yields_named (yields : Yields P read Good) :
    Yields P (entries depth .ok read) fun values : Entries String β =>
      0 < depth ∧ values.Ascending ∧ ∀ entry ∈ values, Good entry.2 := by
  have keys : ∀ name made : String, Except.ok name = (.ok made : Decoded String) → True :=
    fun _ _ _ => trivial
  intro reading values numbers made
  obtain ⟨positive, ordered, each⟩ := yields_entries keys yields reading values numbers made
  exact ⟨positive, ordered, fun entry member => (each entry member).2⟩

end Yields

namespace FieldRule

variable {α : Type} {P : Number → Prop} {Q : α → Prop}

/-- Reading a field keeps a property of the structure. -/
def Keeps (P : Number → Prop) (Q : α → Prop) (rule : FieldRule α) : Prop :=
  ∀ reading before after, reading.Numbers P → rule.store reading before = .ok after →
    Q before → Q after

/-- A field keeps a property of the structure if all parts that are read can be put in their place
    without breaking it. -/
theorem keeps_of {β : Type} {name : String} {presence : Presence} {read : Reading → Decoded β}
    {place : β → α → α} {Good : β → Prop} (yields : Yields P read Good)
    (keeps : ∀ part value, Good part → Q value → Q (place part value)) :
    Keeps P Q (.of name presence read place) := by
  intro reading before after numbers made holds
  rw [store_of] at made
  obtain ⟨part, partMade, rfl⟩ := of_map_eq_ok made
  exact keeps part before (yields reading part numbers partMade) holds

/-- What every field keeps is kept by all members of an object, in whatever order they come. -/
theorem keeps_storeMembers {rules : List (FieldRule α)} (keeps : ∀ rule ∈ rules, rule.Keeps P Q)
    {closed : Bool} {members : List (Option String × Reading)} {seen : List String}
    {before after : α} (numbers : ∀ member ∈ members, member.2.Numbers P)
    (made : storeMembers rules closed members seen before = .ok after) (holds : Q before) :
    Q after := by
  induction members generalizing seen before with
  | nil =>
      rw [storeMembers] at made
      split at made
      · cases made
      · split at made
        · cases made
          exact holds
        · cases made
  | cons member rest ih =>
      obtain ⟨name?, reading⟩ := member
      obtain ⟨first, later⟩ := List.forall_mem_cons.1 numbers
      cases name? with
      | none => cases made
      | some name =>
          rw [storeMembers] at made
          split at made
          · rename_i rule found
            split at made
            · cases made
            · split at made
              · rename_i between stored
                have kept := keeps rule (List.mem_of_find?_eq_some found) reading before between
                  first stored holds
                exact ih later made kept
              · cases made
          · split at made
            · exact ih later made holds
            · cases made

/-- The same for structures that are written as arrays. -/
theorem keeps_storeItems {rules : List (FieldRule α)} (keeps : ∀ rule ∈ rules, rule.Keeps P Q)
    {closed : Bool} {readings : List Reading} {before after : α}
    (numbers : ∀ reading ∈ readings, reading.Numbers P)
    (made : storeItems closed rules readings before = .ok after) (holds : Q before) : Q after := by
  induction rules generalizing readings before with
  | nil =>
      cases readings with
      | nil =>
          rw [storeItems] at made
          split at made
          · cases made
            exact holds
          · cases made
      | cons => cases made
  | cons rule rules ih =>
      obtain ⟨own, others⟩ := List.forall_mem_cons.1 keeps
      cases readings with
      | nil =>
          rw [storeItems] at made
          split at made
          · cases made
          · split at made
            · exact ih others numbers made holds
            · cases made
      | cons reading rest =>
          obtain ⟨first, later⟩ := List.forall_mem_cons.1 numbers
          rw [storeItems] at made
          split at made
          · rename_i between stored
            exact ih others later made (own reading before between first stored holds)
          · cases made

end FieldRule

section Structures

variable {α : Type} {P : Number → Prop} {Q : α → Prop} {depth : Nat} {rules : List (FieldRule α)}
  {initial : α} {toJson : α → Json}

/-- A property that the fields keep holds of every structure that is read, and structures nest. -/
theorem yields_decode (start : Q initial)
    (keeps : ∀ rule ∈ rules, rule.Keeps P Q) :
    Yields P (FieldRule.decode rules initial depth) fun value => 0 < depth ∧ Q value := by
  intro reading value numbers made
  cases numbers with
  | array each =>
      rw [FieldRule.decode] at made
      split at made
      · cases made
      · rename_i allowed
        exact ⟨Nat.pos_of_ne_zero allowed, FieldRule.keeps_storeItems keeps each made start⟩
  | object each =>
      rw [FieldRule.decode] at made
      split at made
      · cases made
      · rename_i allowed
        exact ⟨Nat.pos_of_ne_zero allowed, FieldRule.keeps_storeMembers keeps each made start⟩
  | _ => cases made

/-- A structure is good and keeps to the limit, if its fields keep a property that says so. -/
theorem yields_of_keeps {Good : α → Prop} (start : Q initial)
    (keeps : ∀ rule ∈ rules, rule.Keeps P Q) (good : ∀ value, Q value → Good value)
    (bound : ∀ value, Q value → (toJson value).depth ≤ depth - 1 + 1) :
    Yields P (FieldRule.decode rules initial depth) fun value =>
      Good value ∧ (toJson value).depth ≤ depth := by
  intro reading value numbers made
  obtain ⟨positive, holds⟩ := yields_decode start keeps reading value numbers made
  have deep := bound value holds
  exact ⟨good value holds, by omega⟩

/-- A structure of one level keeps to any limit that it can be read with. -/
theorem yields_of_flat (flat : ∀ value : α, (toJson value).depth ≤ 1) :
    Yields P (FieldRule.decode rules initial depth) fun value => (toJson value).depth ≤ depth := by
  have keeps : ∀ rule ∈ rules, rule.Keeps P fun _ => True := fun _ _ _ _ _ _ _ _ => trivial
  intro reading value numbers made
  have positive := (yields_decode trivial keeps reading value numbers made).1
  exact Nat.le_trans (flat value) positive

end Structures

end SwaggerDocs
