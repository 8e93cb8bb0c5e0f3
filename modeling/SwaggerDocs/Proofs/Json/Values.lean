/-
Module: SwaggerDocs.Proofs.Json.Values
Purpose: JSON values and what a reading makes of them. A value is plain if the members of its objects
  stand in order and its numbers have a given property; how deep arrays and objects nest is its depth.
  The readings that have a value are those of plain values within the depth that is allowed.
Main exports: Json.Plain, Json.Numbers, Json.depth, Json.Reading.ofJson, Json.Reading.Numbers,
  Json.Reading.value?_ofJson, Json.Reading.plain_of_value?
-/
import SwaggerDocs.Json.Reading
import SwaggerDocs.Proofs.Entries

namespace SwaggerDocs.Json

/-- The number is an integer of 64 bits, with or without a sign. -/
def Number.IsWord : Number → Prop
  | .integer n => inIntegerRange n = true
  | .double _ => False

/-- All numbers in a value have a property. -/
inductive Numbers (P : Number → Prop) : Json → Prop where
  | null : Numbers P .null
  | bool {b : Bool} : Numbers P (.bool b)
  | number {n : Number} (holds : P n) : Numbers P (.number n)
  | string {s : String} : Numbers P (.string s)
  | array {items : List Json} (each : ∀ item ∈ items, Numbers P item) : Numbers P (.array items)
  | object {members : List (String × Json)} (each : ∀ member ∈ members, Numbers P member.2) :
      Numbers P (.object members)

/-- All numbers in a value have a property, and the members of all objects in it stand in order. -/
inductive Plain (P : Number → Prop) : Json → Prop where
  | null : Plain P .null
  | bool {b : Bool} : Plain P (.bool b)
  | number {n : Number} (holds : P n) : Plain P (.number n)
  | string {s : String} : Plain P (.string s)
  | array {items : List Json} (each : ∀ item ∈ items, Plain P item) : Plain P (.array items)
  | object {members : Entries String Json} (ordered : members.Ascending)
      (each : ∀ member ∈ members, Plain P member.2) : Plain P (.object members)

/-- The numbers in a plain value have the property. -/
theorem Plain.numbers {P : Number → Prop} {value : Json} (plain : value.Plain P) :
    value.Numbers P := by
  induction plain with
  | null => exact .null
  | bool => exact .bool
  | number holds => exact .number holds
  | string => exact .string
  | array _ ih => exact .array ih
  | object _ _ ih => exact .object ih

/-! ### Depth

Depth is the greatest number of arrays and objects inside each other. The bound on it is what later
proofs need, so it is put as one on each part. -/

mutual

/-- How deep arrays and objects nest in a value. -/
def depth : Json → Nat
  | .array items => itemsDepth items + 1
  | .object members => membersDepth members + 1
  | _ => 0

/-- The greatest depth of items. -/
def itemsDepth : List Json → Nat
  | [] => 0
  | item :: rest => max (depth item) (itemsDepth rest)

/-- The greatest depth of the values of members. -/
def membersDepth : List (String × Json) → Nat
  | [] => 0
  | (_, value) :: rest => max (depth value) (membersDepth rest)

end

/-- A bound of the greatest depth is one of the depth of each item. -/
theorem itemsDepth_le_iff {items : List Json} {n : Nat} :
    itemsDepth items ≤ n ↔ ∀ item ∈ items, item.depth ≤ n := by
  induction items with
  | nil => simp [itemsDepth]
  | cons item rest ih => rw [itemsDepth, max_le_iff, ih, List.forall_mem_cons]

/-- A bound of the greatest depth is one of the depth of each value. -/
theorem membersDepth_le_iff {members : List (String × Json)} {n : Nat} :
    membersDepth members ≤ n ↔ ∀ member ∈ members, member.2.depth ≤ n := by
  induction members with
  | nil => simp [membersDepth]
  | cons member rest ih => rw [membersDepth, max_le_iff, ih, List.forall_mem_cons]

/-- An array nests one level deeper than its items. -/
theorem depth_array_le_iff {items : List Json} {n : Nat} :
    (Json.array items).depth ≤ n ↔ ∃ inner, n = inner + 1 ∧ ∀ item ∈ items, item.depth ≤ inner := by
  rw [depth]
  constructor
  · intro bound
    exact ⟨n - 1, by omega, itemsDepth_le_iff.1 (by omega)⟩
  · rintro ⟨inner, rfl, each⟩
    exact Nat.succ_le_succ (itemsDepth_le_iff.2 each)

/-- An object nests one level deeper than the values of its members. -/
theorem depth_object_le_iff {members : List (String × Json)} {n : Nat} :
    (Json.object members).depth ≤ n ↔
      ∃ inner, n = inner + 1 ∧ ∀ member ∈ members, member.2.depth ≤ inner := by
  rw [depth]
  constructor
  · intro bound
    exact ⟨n - 1, by omega, membersDepth_le_iff.1 (by omega)⟩
  · rintro ⟨inner, rfl, each⟩
    exact Nat.succ_le_succ (membersDepth_le_iff.2 each)

namespace Reading

/-! ### Readings of values

The reading of a value that was written has the value again, provided that it is plain and nests no
deeper than is allowed. Members have to stand in order because an object keeps the last of a name. -/

mutual

/-- The reading of a value that was written in full. -/
def ofJson : Json → Reading
  | .null => .null
  | .bool b => .bool b
  | .number n => .number (some n)
  | .string s => .string (some s)
  | .array items => .array (ofItems items) true
  | .object members => .object (ofMembers members) true

/-- The readings of items. -/
def ofItems : List Json → List Reading
  | [] => []
  | item :: rest => ofJson item :: ofItems rest

/-- The readings of members. -/
def ofMembers : List (String × Json) → List (Option String × Reading)
  | [] => []
  | (name, value) :: rest => (some name, ofJson value) :: ofMembers rest

end

theorem isBroken_ofJson (value : Json) : (ofJson value).isBroken = false := by
  cases value <;> rfl

/-- The readings of items are made one by one. -/
theorem ofItems_eq_map (items : List Json) : ofItems items = items.map ofJson := by
  induction items with
  | nil => rfl
  | cons item rest ih => rw [ofItems, ih, List.map_cons]

/-- The readings of members are made one by one. -/
theorem ofMembers_eq_map (members : List (String × Json)) :
    ofMembers members = members.map fun member => (some member.1, ofJson member.2) := by
  induction members with
  | nil => rfl
  | cons member rest ih => rw [ofMembers, ih, List.map_cons]

/-- The items come back from their readings. -/
theorem itemValues?_ofItems {depth : Nat} {items : List Json}
    (each : ∀ item ∈ items, (ofJson item).value? depth = some item) :
    itemValues? depth (ofItems items) = some items := by
  induction items with
  | nil => rfl
  | cons item rest ih =>
      obtain ⟨first, later⟩ := List.forall_mem_cons.1 each
      rw [ofItems, itemValues?, first, ih later]

/-- The members come back from their readings. -/
theorem memberValues?_ofMembers {depth : Nat} {members : List (String × Json)}
    (each : ∀ member ∈ members, (ofJson member.2).value? depth = some member.2) :
    memberValues? depth (ofMembers members) = some members := by
  induction members with
  | nil => rfl
  | cons member rest ih =>
      obtain ⟨name, item⟩ := member
      obtain ⟨first, later⟩ := List.forall_mem_cons.1 each
      have others := ih later
      simp only at first
      simp only [ofMembers, memberValues?, first, others]

/-- The reading of a plain value has that value, if its depth is allowed. -/
theorem value?_ofJson {P : Number → Prop} {value : Json} (plain : value.Plain P) {n : Nat}
    (bound : value.depth ≤ n) : (ofJson value).value? n = some value := by
  induction plain generalizing n with
  | null => rw [ofJson, value?]
  | bool => rw [ofJson, value?]
  | number => rw [ofJson, value?]; rfl
  | string => rw [ofJson, value?]; rfl
  | @array items _ ih =>
      obtain ⟨inner, rfl, each⟩ := depth_array_le_iff.1 bound
      have values : itemValues? inner (ofItems items) = some items := by
        apply itemValues?_ofItems
        intro item member
        exact ih item member (each item member)
      simp only [ofJson, value?, values]
  | @object members ordered _ ih =>
      obtain ⟨inner, rfl, each⟩ := depth_object_le_iff.1 bound
      have values : memberValues? inner (ofMembers members) = some members := by
        apply memberValues?_ofMembers
        intro member listed
        exact ih member listed (each member listed)
      simp only [ofJson, value?, values, Entries.ofList_of_ascending ordered]

/-! ### Values of readings

The converse: a reading that has a value has a plain one, within the depth that is allowed, whatever
text it was made of. -/

/-- All numbers that are held in a reading have a property. -/
inductive Numbers (P : Number → Prop) : Reading → Prop where
  | null : Numbers P .null
  | bool {b : Bool} : Numbers P (.bool b)
  | number {n : Option Number} (holds : ∀ value ∈ n, P value) : Numbers P (.number n)
  | string {s : Option String} : Numbers P (.string s)
  | array {items : List Reading} {closed : Bool} (each : ∀ item ∈ items, Numbers P item) :
      Numbers P (.array items closed)
  | object {members : List (Option String × Reading)} {closed : Bool}
      (each : ∀ member ∈ members, Numbers P member.2) : Numbers P (.object members closed)
  | broken : Numbers P .broken

/-- The numbers in the reading of a value are those of the value. -/
theorem numbers_ofJson {P : Number → Prop} {value : Json} (numbers : value.Numbers P) :
    (ofJson value).Numbers P := by
  induction numbers with
  | null => rw [ofJson]; exact .null
  | bool => rw [ofJson]; exact .bool
  | number holds =>
      rw [ofJson]
      refine .number ?_
      rintro _ ⟨⟩
      exact holds
  | string => rw [ofJson]; exact .string
  | array _ ih =>
      rw [ofJson, ofItems_eq_map]
      exact .array (List.forall_mem_map.2 ih)
  | object _ ih =>
      rw [ofJson, ofMembers_eq_map]
      exact .object (List.forall_mem_map.2 ih)

mutual

/-- Any property that all numbers have, the numbers in a reading have. -/
theorem numbers_of_forall {P : Number → Prop} (all : ∀ n, P n) :
    ∀ reading : Reading, reading.Numbers P
  | .null => .null
  | .bool _ => .bool
  | .number _ => .number fun n _ => all n
  | .string _ => .string
  | .array items _ => .array (numbers_of_items all items)
  | .object members _ => .object (numbers_of_members all members)
  | .broken => .broken

theorem numbers_of_items {P : Number → Prop} (all : ∀ n, P n) :
    ∀ items : List Reading, ∀ item ∈ items, item.Numbers P
  | [] => fun _ absent => by cases absent
  | item :: rest => List.forall_mem_cons.2 ⟨numbers_of_forall all item, numbers_of_items all rest⟩

theorem numbers_of_members {P : Number → Prop} (all : ∀ n, P n) :
    ∀ members : List (Option String × Reading), ∀ member ∈ members, member.2.Numbers P
  | [] => fun _ absent => by cases absent
  | (_, reading) :: rest =>
      List.forall_mem_cons.2 ⟨numbers_of_forall all reading, numbers_of_members all rest⟩

end

/-- The value of an item is that of its reading. -/
theorem mem_itemValues? {depth : Nat} {items : List Reading} {values : List Json}
    (read : itemValues? depth items = some values) :
    ∀ value ∈ values, ∃ item ∈ items, item.value? depth = some value := by
  induction items generalizing values with
  | nil =>
      cases read
      intro value absent
      cases absent
  | cons item rest ih =>
      rw [itemValues?] at read
      split at read
      · rename_i first later firstRead laterRead
        cases read
        intro value member
        rcases List.mem_cons.1 member with rfl | member
        · exact ⟨item, List.mem_cons_self, firstRead⟩
        · obtain ⟨found, listed, foundRead⟩ := ih laterRead value member
          exact ⟨found, List.mem_cons_of_mem _ listed, foundRead⟩
      · cases read

/-- The value of a member is that of its reading. -/
theorem mem_memberValues? {depth : Nat} {members : List (Option String × Reading)}
    {values : List (String × Json)} (read : memberValues? depth members = some values) :
    ∀ value ∈ values, ∃ member ∈ members, member.2.value? depth = some value.2 := by
  induction members generalizing values with
  | nil =>
      cases read
      intro value absent
      cases absent
  | cons member rest ih =>
      obtain ⟨name?, item⟩ := member
      simp only [memberValues?] at read
      split at read
      · rename_i name first later firstRead laterRead
        cases read
        intro value listed
        rcases List.mem_cons.1 listed with rfl | listed
        · exact ⟨_, List.mem_cons_self, firstRead⟩
        · obtain ⟨found, inRest, foundRead⟩ := ih laterRead value listed
          exact ⟨found, List.mem_cons_of_mem _ inRest, foundRead⟩
      · cases read

/-- An array has a value if it is closed, nesting is allowed, and all items have values. -/
theorem value?_array {n : Nat} {items : List Reading} {closed : Bool} {value : Json}
    (read : (Reading.array items closed).value? n = some value) :
    ∃ inner values, n = inner + 1 ∧ itemValues? inner items = some values ∧
      value = .array values := by
  cases n with
  | zero => cases read
  | succ inner =>
      simp only [value?] at read
      split at read
      · rename_i values itemsRead
        cases read
        exact ⟨inner, values, rfl, itemsRead, rfl⟩
      · cases read

/-- An object has a value if it is closed, nesting is allowed, and all members have values. -/
theorem value?_object {n : Nat} {members : List (Option String × Reading)} {closed : Bool}
    {value : Json} (read : (Reading.object members closed).value? n = some value) :
    ∃ inner values, n = inner + 1 ∧ memberValues? inner members = some values ∧
      value = .object (Entries.ofList values) := by
  cases n with
  | zero => cases read
  | succ inner =>
      simp only [value?] at read
      split at read
      · rename_i values membersRead
        cases read
        exact ⟨inner, values, rfl, membersRead, rfl⟩
      · cases read

/-- Only the null value is read as null. -/
theorem eq_null_of_value? {n : Nat} {reading : Reading} (read : reading.value? n = some .null) :
    reading = .null := by
  cases reading with
  | null => rfl
  | bool => cases read
  | number value =>
      rw [value?] at read
      obtain ⟨_, _, same⟩ := Option.map_eq_some_iff.1 read
      cases same
  | string text =>
      rw [value?] at read
      obtain ⟨_, _, same⟩ := Option.map_eq_some_iff.1 read
      cases same
  | array items closed =>
      obtain ⟨_, _, _, _, same⟩ := value?_array read
      cases same
  | object members closed =>
      obtain ⟨_, _, _, _, same⟩ := value?_object read
      cases same
  | broken => cases read

/-- The value of a reading is plain and nests as deep as is allowed. -/
theorem plain_of_value? {P : Number → Prop} {reading : Reading} (numbers : reading.Numbers P)
    {n : Nat} {value : Json} (read : reading.value? n = some value) :
    value.Plain P ∧ value.depth ≤ n := by
  induction numbers generalizing n value with
  | null =>
      cases read
      exact ⟨.null, Nat.zero_le n⟩
  | bool =>
      cases read
      exact ⟨.bool, Nat.zero_le n⟩
  | number holds =>
      rw [value?] at read
      obtain ⟨number, held, rfl⟩ := Option.map_eq_some_iff.1 read
      exact ⟨.number (holds number held), Nat.zero_le n⟩
  | string =>
      rw [value?] at read
      obtain ⟨text, _, rfl⟩ := Option.map_eq_some_iff.1 read
      exact ⟨.string, Nat.zero_le n⟩
  | array _ ih =>
      obtain ⟨inner, values, rfl, itemsRead, rfl⟩ := value?_array read
      have each : ∀ item ∈ values, item.Plain P ∧ item.depth ≤ inner := by
        intro item member
        obtain ⟨found, listed, foundRead⟩ := mem_itemValues? itemsRead item member
        exact ih found listed foundRead
      refine ⟨.array fun item member => (each item member).1, ?_⟩
      exact depth_array_le_iff.2 ⟨inner, rfl, fun item member => (each item member).2⟩
  | object _ ih =>
      obtain ⟨inner, values, rfl, membersRead, rfl⟩ := value?_object read
      -- Of several members with one name only the last one is left.
      have each : ∀ member ∈ Entries.ofList values,
          member.2.Plain P ∧ member.2.depth ≤ inner := by
        intro member listed
        obtain ⟨found, among, foundRead⟩ :=
          mem_memberValues? membersRead member (Entries.mem_of_mem_ofList listed)
        exact ih found among foundRead
      refine ⟨.object (Entries.ascending_ofList values) fun member listed => (each member listed).1,
        ?_⟩
      exact depth_object_le_iff.2 ⟨inner, rfl, fun member listed => (each member listed).2⟩
  | broken => cases read

end Reading

end SwaggerDocs.Json
