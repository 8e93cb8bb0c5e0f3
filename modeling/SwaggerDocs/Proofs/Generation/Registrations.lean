/-
Module: SwaggerDocs.Proofs.Generation.Registrations
Purpose: What a registry holds after a list of registrations. Its identifiers are those that were
  registered, whatever the policy. One policy keeps the last schema of an identifier and the other
  one the first, and warns about each registration that differs from what it keeps.
Main exports: Registry.registerAll, firstOf, lastOf, Registry.contains_registerAll,
  Registry.get?_registerAll_of_overwrite, Registry.get?_registerAll_of_firstWins,
  Registry.registerAll_again, Registry.keptFirst_replay
-/
import SwaggerDocs.Proofs.Entries
import SwaggerDocs.Proofs.Generation.Uses
import SwaggerDocs.Proofs.Swagger.Parts

namespace SwaggerDocs

/-- The warning says that a second schema of an identifier was not kept. -/
def Warning.isKeptFirst : Warning → Bool
  | .keptFirst _ => true
  | _ => false

/-- The first schema of an identifier among registrations. -/
def firstOf (id : String) (entries : List (String × Schema)) : Option Schema :=
  (entries.find? fun entry => entry.1 = id).map Prod.snd

/-- The last schema of an identifier among registrations. -/
def lastOf (id : String) (entries : List (String × Schema)) : Option Schema :=
  firstOf id entries.reverse

/-- The first schema of an identifier is the one at the beginning, if that has it. -/
theorem firstOf_cons (id : String) (entry : String × Schema) (rest : List (String × Schema)) :
    firstOf id (entry :: rest) = if entry.1 = id then some entry.2 else firstOf id rest := by
  rw [firstOf, List.find?_cons]
  by_cases same : entry.1 = id
  · simp [same]
  · simp [same, firstOf]

/-- The last schema of an identifier is a later one, if there is any. -/
theorem lastOf_cons (id : String) (entry : String × Schema) (rest : List (String × Schema)) :
    lastOf id (entry :: rest) =
      (lastOf id rest).or (if entry.1 = id then some entry.2 else none) := by
  rw [lastOf, firstOf, List.reverse_cons, List.find?_append, lastOf, firstOf]
  cases rest.reverse.find? fun e => decide (e.1 = id) with
  | some found => rfl
  | none => by_cases same : entry.1 = id <;> simp [same]

namespace Registry

/-- Registers schemas one after another. -/
def registerAll (registry : Registry) (entries : List (String × Schema)) : Registry :=
  entries.foldl (fun reached entry => (reached.register entry.1 entry.2).1) registry

/-- A replay ends with what its registrations make of the registry. -/
theorem replay_fst (registry : Registry) (events : List Event) :
    (registry.replay events).1 = registry.registerAll (events.filterMap Event.registration?) := by
  induction events generalizing registry with
  | nil => rfl
  | cons event rest ih =>
      cases event with
      | register id schema => simp only [replay, step, ih]; rfl
      | warn warning => simp only [replay, step, ih]; rfl

section Register

variable (registry : Registry) (id : String) (schema : Schema)

theorem policy_register : (registry.register id schema).1.policy = registry.policy := by
  unfold register
  split
  · rfl
  · split
    · rfl
    · split <;> rfl

/-- A schema that is put under an identifier is found there, and nothing else changes. -/
theorem get?_put (other : String) :
    (registry.put id schema).get? other = if other = id then some schema else registry.get? other :=
  Entries.find?_insert id other schema registry.schemas

/-- A registration leaves a registry as it is, or puts the schema into it. -/
theorem register_cases :
    ((registry.register id schema).1 = registry ∧ (registry.get? id).isSome) ∨
      (registry.register id schema).1 = registry.put id schema := by
  unfold register
  cases bound : registry.get? id with
  | none => exact Or.inr rfl
  | some existing =>
      simp only
      split
      · exact Or.inl ⟨rfl, rfl⟩
      · split
        · exact Or.inr rfl
        · exact Or.inl ⟨rfl, rfl⟩

/-- A registration concerns its own identifier only, under either policy. -/
theorem get?_register_of_ne {other : String} (different : other ≠ id) :
    (registry.register id schema).1.get? other = registry.get? other := by
  rcases register_cases registry id schema with ⟨unchanged, _⟩ | changed
  · rw [unchanged]
  · rw [changed, get?_put, if_neg different]

/-- After a registration the identifier is defined, even if the schema is not the one that is kept. -/
theorem contains_register (other : String) :
    (registry.register id schema).1.contains other = (decide (other = id) || registry.contains other) := by
  by_cases same : other = id
  · subst same
    rcases register_cases registry other schema with ⟨unchanged, bound⟩ | changed
    · simp [unchanged, contains, bound]
    · simp [changed, contains, get?_put]
  · simp [contains, get?_register_of_ne registry id schema same, same]

/-- A schema that is found after a registration was there before or is the new one. -/
theorem get?_register_origin {other : String} {found : Schema}
    (bound : (registry.register id schema).1.get? other = some found) :
    registry.get? other = some found ∨ (other, found) = (id, schema) := by
  rcases register_cases registry id schema with ⟨unchanged, _⟩ | changed
  · exact Or.inl (unchanged ▸ bound)
  · rw [changed, get?_put] at bound
    split at bound
    · rename_i same
      cases bound
      exact Or.inr (same ▸ rfl)
    · exact Or.inl bound

/-- The same for the entries, whether or not they can be found. -/
theorem mem_schemas_register {entry : String × Schema}
    (member : entry ∈ (registry.register id schema).1.schemas) :
    entry = (id, schema) ∨ entry ∈ registry.schemas := by
  rcases register_cases registry id schema with ⟨unchanged, _⟩ | changed
  · rw [unchanged] at member
    exact Or.inr member
  · rw [changed] at member
    exact Entries.mem_insert member

theorem ascending_register (sorted : Entries.Ascending registry.schemas) :
    Entries.Ascending (registry.register id schema).1.schemas := by
  rcases register_cases registry id schema with ⟨unchanged, _⟩ | changed
  · rw [unchanged]
    exact sorted
  · rw [changed]
    exact Entries.ascending_insert id schema sorted

end Register

section RegisterAll

variable {registry : Registry} {entries : List (String × Schema)}

theorem policy_registerAll : (registry.registerAll entries).policy = registry.policy := by
  induction entries generalizing registry with
  | nil => rfl
  | cons entry rest ih => exact ih.trans (policy_register registry entry.1 entry.2)

theorem ascending_registerAll (sorted : Entries.Ascending registry.schemas) :
    Entries.Ascending (registry.registerAll entries).schemas := by
  induction entries generalizing registry with
  | nil => exact sorted
  | cons entry rest ih => exact ih (ascending_register registry entry.1 entry.2 sorted)

/-- The identifiers of a registry are the earlier ones and those that were registered. -/
theorem contains_registerAll {id : String} :
    (registry.registerAll entries).contains id = true ↔
      registry.contains id = true ∨ ∃ schema, (id, schema) ∈ entries := by
  induction entries generalizing registry with
  | nil => simp [registerAll]
  | cons entry rest ih =>
      obtain ⟨key, value⟩ := entry
      refine ih.trans ?_
      rw [contains_register, Bool.or_eq_true, decide_eq_true_eq]
      constructor
      · rintro ((rfl | old) | ⟨schema, later⟩)
        · exact Or.inr ⟨value, List.mem_cons_self⟩
        · exact Or.inl old
        · exact Or.inr ⟨schema, List.mem_cons_of_mem _ later⟩
      · rintro (old | ⟨schema, member⟩)
        · exact Or.inl (Or.inr old)
        · rcases List.mem_cons.1 member with first | later
          · cases first
            exact Or.inl (Or.inl rfl)
          · exact Or.inr ⟨schema, later⟩

/-- An entry of a registry was there before or was registered. -/
theorem mem_schemas_registerAll {entry : String × Schema}
    (member : entry ∈ (registry.registerAll entries).schemas) :
    entry ∈ registry.schemas ∨ entry ∈ entries := by
  induction entries generalizing registry with
  | nil => exact Or.inl member
  | cons first rest ih =>
      rcases ih member with early | late
      · rcases mem_schemas_register registry first.1 first.2 early with new | old
        · exact Or.inr (new ▸ List.mem_cons_self)
        · exact Or.inl old
      · exact Or.inr (List.mem_cons_of_mem _ late)

/-- A schema in a registry was there before or was registered under its identifier. -/
theorem get?_registerAll_origin {id : String} {schema : Schema}
    (bound : (registry.registerAll entries).get? id = some schema) :
    registry.get? id = some schema ∨ (id, schema) ∈ entries := by
  induction entries generalizing registry with
  | nil => exact Or.inl bound
  | cons entry rest ih =>
      rcases ih bound with early | late
      · rcases get?_register_origin registry entry.1 entry.2 early with old | new
        · exact Or.inl old
        · exact Or.inr (new ▸ List.mem_cons_self)
      · exact Or.inr (List.mem_cons_of_mem _ late)

end RegisterAll

/-- An identifier is listed exactly if it is defined. -/
theorem mem_ids {registry : Registry} {id : String} :
    id ∈ registry.ids ↔ registry.contains id = true := Entries.mem_keys_iff

/-- Registries in order are equal if they have the same policy and the same bindings. -/
theorem eq_of_get?_eq {left right : Registry} (policy : left.policy = right.policy)
    (leftSorted : Entries.Ascending left.schemas) (rightSorted : Entries.Ascending right.schemas)
    (same : ∀ id, left.get? id = right.get? id) : left = right := by
  obtain ⟨leftPolicy, leftSchemas⟩ := left
  obtain ⟨rightPolicy, rightSchemas⟩ := right
  obtain rfl : leftPolicy = rightPolicy := policy
  exact congrArg _ (Entries.eq_of_find?_eq leftSorted rightSorted same)

/-! ### The last schema and the first one

A registry compares a new schema with the one that it has, and takes equal ones for the same. Equality
of schemas can be told from that comparison if their payloads are texts, as those of all generated
schemas are. -/

/-- The payloads of all schemas in a registry are texts. -/
def Texts (registry : Registry) : Prop :=
  ∀ id schema, registry.get? id = some schema → schema.Every Schema.TextPayloads

/-- Payloads stay texts if those of the new schema are. -/
theorem Texts.register {registry : Registry} (texts : registry.Texts) {schema : Schema}
    (text : schema.Every Schema.TextPayloads) (id : String) :
    (registry.register id schema).1.Texts := by
  intro other found bound
  rcases get?_register_origin registry id schema bound with old | new
  · exact texts other found old
  · cases new
    exact text

/-- Overwriting binds the identifier to the schema: one that is left in place is equal to it. -/
theorem get?_register_of_overwrite {registry : Registry} (overwrites : registry.policy = .overwrite)
    (texts : registry.Texts) {schema : Schema} (text : schema.Every Schema.TextPayloads)
    (id other : String) :
    (registry.register id schema).1.get? other =
      if other = id then some schema else registry.get? other := by
  unfold register
  cases bound : registry.get? id with
  | none => exact get?_put registry id schema other
  | some existing =>
      simp only
      split
      · rename_i same
        have equal := (Schema.same_iff_eq (texts id existing bound) text).1 same
        split
        · rename_i this
          rw [this, bound, equal]
        · rfl
      · rw [overwrites]
        exact get?_put registry id schema other

/-- Where registrations overwrite, the last schema of an identifier is kept. -/
theorem get?_registerAll_of_overwrite {registry : Registry} {entries : List (String × Schema)}
    (overwrites : registry.policy = .overwrite) (texts : registry.Texts)
    (text : ∀ entry ∈ entries, entry.2.Every Schema.TextPayloads) (id : String) :
    (registry.registerAll entries).get? id = (lastOf id entries).or (registry.get? id) := by
  induction entries generalizing registry with
  | nil => rfl
  | cons entry rest ih =>
      have own := text entry List.mem_cons_self
      have later := ih ((policy_register registry entry.1 entry.2).trans overwrites)
        (texts.register own entry.1) fun other member => text other (List.mem_cons_of_mem _ member)
      refine later.trans ?_
      rw [get?_register_of_overwrite overwrites texts own, lastOf_cons, Option.or_assoc]
      by_cases same : entry.1 = id
      · simp [same]
      · simp [same, Ne.symm same]

/-- Where the first schema wins, a bound identifier keeps its schema. -/
theorem get?_register_of_firstWins {registry : Registry}
    (firstWins : registry.policy = .firstWins) (id : String) (schema : Schema) (other : String) :
    (registry.register id schema).1.get? other =
      (registry.get? other).or (if id = other then some schema else none) := by
  by_cases same : id = other
  · subst same
    unfold register
    cases bound : registry.get? id with
    | none => simp [get?_put]
    | some existing =>
        simp only
        split
        · simp [bound]
        · simp [firstWins, bound]
  · rw [get?_register_of_ne registry id schema (Ne.symm same), if_neg same, Option.or_none]

/-- Where the first registration wins, a schema that was there before is kept, and else the first one.
    -/
theorem get?_registerAll_of_firstWins {registry : Registry} {entries : List (String × Schema)}
    (firstWins : registry.policy = .firstWins) (id : String) :
    (registry.registerAll entries).get? id = (registry.get? id).or (firstOf id entries) := by
  induction entries generalizing registry with
  | nil => simp [registerAll, firstOf]
  | cons entry rest ih =>
      refine (ih ((policy_register registry entry.1 entry.2).trans firstWins)).trans ?_
      rw [get?_register_of_firstWins firstWins, firstOf_cons, Option.or_assoc]
      by_cases same : entry.1 = id <;> simp [same]

/-- Payloads stay texts if those of all new schemas are. -/
theorem Texts.registerAll {registry : Registry} {entries : List (String × Schema)}
    (texts : registry.Texts) (text : ∀ entry ∈ entries, entry.2.Every Schema.TextPayloads) :
    (registry.registerAll entries).Texts := by
  intro id schema bound
  rcases get?_registerAll_origin bound with old | new
  · exact texts id schema old
  · exact text (id, schema) new

/-- To register the same schemas once more changes nothing. -/
theorem registerAll_again {registry : Registry} {entries : List (String × Schema)}
    (sorted : Entries.Ascending registry.schemas) (texts : registry.Texts)
    (text : ∀ entry ∈ entries, entry.2.Every Schema.TextPayloads) :
    (registry.registerAll entries).registerAll entries = registry.registerAll entries := by
  have sortedOnce : Entries.Ascending (registry.registerAll entries).schemas :=
    ascending_registerAll sorted
  have policyOnce : (registry.registerAll entries).policy = registry.policy := policy_registerAll
  refine eq_of_get?_eq policy_registerAll (ascending_registerAll sortedOnce) sortedOnce ?_
  intro id
  cases policy : registry.policy with
  | overwrite =>
      rw [get?_registerAll_of_overwrite (policyOnce.trans policy) (texts.registerAll text) text,
        get?_registerAll_of_overwrite policy texts text]
      cases lastOf id entries <;> rfl
  | firstWins =>
      rw [get?_registerAll_of_firstWins (policyOnce.trans policy),
        get?_registerAll_of_firstWins policy, Option.or_assoc]
      cases firstOf id entries <;> rfl

/-! ### Warnings about schemas that are not kept

The policy that keeps the first schema reports a later one that differs. The reports can be counted
afterwards, from what the registry holds in the end. -/

open scoped Classical in
/-- Where the first schema wins, a registration is reported if another schema is kept. -/
theorem warnings_register_of_firstWins {registry : Registry}
    (firstWins : registry.policy = .firstWins) (texts : registry.Texts) {schema : Schema}
    (text : schema.Every Schema.TextPayloads) (id : String) :
    (registry.register id schema).2 =
      if (registry.register id schema).1.get? id = some schema then [] else [.keptFirst id] := by
  rw [get?_register_of_firstWins firstWins, if_pos rfl]
  unfold register
  cases bound : registry.get? id with
  | none => simp
  | some existing =>
      have equal := Schema.same_iff_eq (texts id existing bound) text
      by_cases same : existing = schema
      · subst same
        simp [equal.2 rfl]
      · have different : existing.same schema = false := by
          simpa using mt equal.1 same
        simp [different, firstWins, same]

open scoped Classical in
/-- The reports about schemas that are not kept are those about the registrations that differ from
    what the registry holds in the end. -/
theorem keptFirst_replay {registry : Registry} {events : List Event}
    (firstWins : registry.policy = .firstWins) (texts : registry.Texts)
    (text : ∀ entry ∈ events.filterMap Event.registration?, entry.2.Every Schema.TextPayloads)
    (others : ∀ warning, Event.warn warning ∈ events → warning.isKeptFirst = false) :
    (registry.replay events).2.filter Warning.isKeptFirst =
      ((events.filterMap Event.registration?).filter fun entry =>
        (registry.replay events).1.get? entry.1 ≠ some entry.2).map
          fun entry => .keptFirst entry.1 := by
  induction events generalizing registry with
  | nil => rfl
  | cons event rest ih =>
      have laterOthers : ∀ warning, Event.warn warning ∈ rest → warning.isKeptFirst = false :=
        fun warning member => others warning (List.mem_cons_of_mem _ member)
      cases event with
      | warn warning =>
          have plain := others warning List.mem_cons_self
          have skipped : (Event.warn warning :: rest).filterMap Event.registration? =
              rest.filterMap Event.registration? := rfl
          rw [skipped] at text ⊢
          refine Eq.trans ?_ (ih firstWins texts text laterOthers)
          simp [replay, step, plain]
      | register id schema =>
          have own := text (id, schema) List.mem_cons_self
          have later := ih ((policy_register registry id schema).trans firstWins)
            (texts.register own id) (fun entry member => text entry (List.mem_cons_of_mem _ member))
            laterOthers
          have reported := warnings_register_of_firstWins firstWins texts own id
          -- What is bound now stays bound to the end.
          have final : ((registry.register id schema).1.replay rest).1.get? id =
              (registry.register id schema).1.get? id := by
            rw [replay_fst, get?_registerAll_of_firstWins
              ((policy_register registry id schema).trans firstWins)]
            apply Option.or_of_isSome
            have bound := contains_register registry id schema id
            simpa [contains] using bound
          have listed : (Event.register id schema :: rest).filterMap Event.registration? =
              (id, schema) :: rest.filterMap Event.registration? := rfl
          rw [listed]
          simp only [replay, step, List.filter_append, later, reported]
          by_cases kept : (registry.register id schema).1.get? id = some schema
          · rw [List.filter_cons_of_neg (by simpa [final] using kept)]
            simp [kept]
          · rw [List.filter_cons_of_pos (by simpa [final] using kept)]
            rw [if_neg kept]
            simp [List.filter_cons, Warning.isKeptFirst]

end Registry

end SwaggerDocs
