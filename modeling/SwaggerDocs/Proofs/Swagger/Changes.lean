/-
Module: SwaggerDocs.Proofs.Swagger.Changes
Purpose: What changes in turn make of a new operation, and what bindings in turn make of the operations
  of a path. A parameter stands where its name and location were first put and is the one that was put
  last; a media type stands where it was first named; a response holds all changes of its key and none of
  another. A method holds the operation that it was bound to last.
Main exports: Parameter.slot, Operation.Change, Operation.run, Operation.Reflects,
  Operation.Reflects.apply, PathItem.bindAll, PathItem.Reflects, changes_reflected
-/
import Mathlib.Data.List.Induction
import SwaggerDocs.Proofs.Entries
import SwaggerDocs.Proofs.Swagger.ResponseKey
import SwaggerDocs.Swagger.Operation

namespace SwaggerDocs

/-! ### First and last occurrences

Lists keep an item where it first occurs, and slots keep the one that came last. Both are put for one
more item at the end, because changes come in turn. -/

/-- Items are kept where they first occur. -/
theorem eraseDups_concat {α : Type} [BEq α] [LawfulBEq α] (items : List α) (item : α) :
    (items ++ [item]).eraseDups =
      if item ∈ items then items.eraseDups else items.eraseDups ++ [item] := by
  rw [List.eraseDups_append]
  by_cases member : item ∈ items
  · simp [member, List.removeAll]
  · simp [member, List.removeAll, List.eraseDups_cons]

/-- No item is kept twice. -/
theorem nodup_eraseDups {α : Type} [BEq α] [LawfulBEq α] (items : List α) : items.eraseDups.Nodup := by
  induction items using List.reverseRecOn with
  | nil => exact List.nodup_nil
  | append_singleton items item ih =>
      rw [eraseDups_concat]
      split
      · exact ih
      · rename_i absent
        apply List.nodup_append.2
        refine ⟨ih, List.pairwise_singleton _ _, ?_⟩
        intro other member added listed same
        apply absent
        rw [← List.mem_singleton.1 listed, ← same]
        exact List.mem_eraseDups.1 member

/-- The last item of a kind after one more item. -/
theorem getLast?_filter_concat {α : Type} (kind : α → Bool) (items : List α) (item : α) :
    ((items ++ [item]).filter kind).getLast? =
      if kind item = true then some item else (items.filter kind).getLast? := by
  rw [List.filter_append, List.filter_singleton]
  cases kind item with
  | true => exact List.getLast?_concat
  | false => exact congrArg _ (List.append_nil _)

/-! ### Parameters in their places

A parameter is put in the place of the one with its name and location, or at the end. -/

/-- The name and location of a parameter. -/
def Parameter.slot (parameter : Parameter) : String × ParameterLocation :=
  (parameter.name, parameter.location)

/-- Parameters are put in one place if they have the same name and location. -/
theorem Parameter.sameSlot_iff {parameter other : Parameter} :
    parameter.sameSlot other = true ↔ parameter.slot = other.slot := by
  simp [sameSlot, slot]

namespace Operation

variable {added parameter : Parameter} {parameters : List Parameter}

/-- Putting a parameter moves no other one: a new slot comes to the end. -/
theorem map_slot_putParameter (added : Parameter) (parameters : List Parameter) :
    (putParameter added parameters).map Parameter.slot =
      if added.slot ∈ parameters.map Parameter.slot then parameters.map Parameter.slot
      else parameters.map Parameter.slot ++ [added.slot] := by
  induction parameters with
  | nil => rfl
  | cons existing rest ih =>
      rw [putParameter]
      by_cases same : existing.sameSlot added = true
      · have first := Parameter.sameSlot_iff.1 same
        simp [same, first]
      · have first : added.slot ≠ existing.slot := fun slots =>
          same (Parameter.sameSlot_iff.2 slots.symm)
        rw [if_neg same, List.map_cons, ih, List.map_cons]
        simp only [List.mem_cons, first, false_or]
        split <;> rfl

/-- After a parameter was put, its slot holds it and the other slots what they held. -/
theorem mem_putParameter_of_nodup (single : (parameters.map Parameter.slot).Nodup)
    (member : parameter ∈ putParameter added parameters) :
    parameter = added ∨ parameter ∈ parameters ∧ parameter.slot ≠ added.slot := by
  induction parameters with
  | nil => exact Or.inl (List.mem_singleton.1 member)
  | cons existing rest ih =>
      obtain ⟨apart, single⟩ := List.nodup_cons.1 single
      rw [putParameter] at member
      split at member
      · rename_i same
        rcases List.mem_cons.1 member with new | later
        · exact Or.inl new
        · refine Or.inr ⟨List.mem_cons_of_mem _ later, fun slots => apart ?_⟩
          rw [Parameter.sameSlot_iff.1 same, ← slots]
          exact List.mem_map_of_mem later
      · rename_i different
        rcases List.mem_cons.1 member with first | later
        · refine Or.inr ⟨first ▸ List.mem_cons_self, fun slots => different ?_⟩
          exact Parameter.sameSlot_iff.2 (first ▸ slots)
        · rcases ih single later with new | ⟨old, other⟩
          · exact Or.inl new
          · exact Or.inr ⟨List.mem_cons_of_mem _ old, other⟩

/-- Adding an item once keeps the first occurrences of all items so far. -/
theorem addOnce_eraseDups (item : String) (items : List String) :
    addOnce item items.eraseDups = (items ++ [item]).eraseDups := by
  rw [addOnce, eraseDups_concat]
  simp only [List.contains_iff_mem, List.mem_eraseDups]

/-! ### Responses

A response is asked for by its key, and changed in any way that the caller likes. -/

section Responses

variable (operation : Operation) (key other : ResponseKey) (change : Response → Response)

/-- A change of one response leaves the others as they are. -/
theorem find?_updateResponse :
    (operation.updateResponse key change).responses.find? other =
      if other = key then some (change (operation.responseAt key))
      else operation.responses.find? other :=
  Entries.find?_insert key other _ operation.responses

/-- Asked for a response, the operation gives the changed one under its own key only. -/
theorem responseAt_updateResponse :
    (operation.updateResponse key change).responseAt other =
      if other = key then change (operation.responseAt other) else operation.responseAt other := by
  rw [responseAt, find?_updateResponse]
  split
  · rename_i same
    rw [same]
    rfl
  · rfl

/-- A response that is asked for stands from then on. -/
theorem isSome_updateResponse :
    ((operation.updateResponse key change).responses.find? other).isSome ↔
      key = other ∨ (operation.responses.find? other).isSome := by
  rw [find?_updateResponse]
  by_cases same : other = key
  · simp [same]
  · simp [same, Ne.symm same]

end Responses

/-! ### Changes in turn

What an operation is after changes is said in terms of the list of changes alone. The step lemma adds
one change at the end; the run follows by induction from there. -/

/-- A change of an operation. -/
inductive Change where
  | setParameter (parameter : Parameter)
  | addConsumes (mediaType : String)
  | addProduces (mediaType : String)
  /-- The response of a key is asked for, and is changed in whatever way. -/
  | updateResponse (key : ResponseKey) (change : Response → Response)

namespace Change

/-- The parameter that a change puts. -/
def parameter? : Change → Option Parameter
  | .setParameter parameter => some parameter
  | _ => none

/-- The media type of request bodies that a change names. -/
def consumed? : Change → Option String
  | .addConsumes mediaType => some mediaType
  | _ => none

/-- The media type of responses that a change names. -/
def produced? : Change → Option String
  | .addProduces mediaType => some mediaType
  | _ => none

/-- What a change does to the response of a key, if it asks for that response. -/
def response? (key : ResponseKey) : Change → Option (Response → Response)
  | .updateResponse key' change => if key' = key then some change else none
  | _ => none

end Change

/-- Makes one change. -/
def apply (operation : Operation) : Change → Operation
  | .setParameter parameter => operation.setParameter parameter
  | .addConsumes mediaType => operation.addConsumes mediaType
  | .addProduces mediaType => operation.addProduces mediaType
  | .updateResponse key change => operation.updateResponse key change

/-- A new operation after changes in turn. -/
def run (id : String) (changes : List Change) : Operation := changes.foldl apply (named id)

/-- The response of a key after changes in turn: there is one if a change asks for it, and the changes
    that ask for it were made to an empty response. -/
def changedResponse (changes : List Change) (key : ResponseKey) : Option Response :=
  match changes.filterMap (·.response? key) with
  | [] => none
  | asked => some (asked.foldl (fun response change => change response) {})

/-- An operation is what changes in turn make of a new one. -/
structure Reflects (operation : Operation) (changes : List Change) : Prop where
  /-- No two parameters have one name and one location. -/
  slots_nodup : (operation.parameters.map Parameter.slot).Nodup
  /-- A name and location stands where it was first put. -/
  slots : operation.parameters.map Parameter.slot =
    ((changes.filterMap (·.parameter?)).map Parameter.slot).eraseDups
  /-- A parameter is the one of its name and location that was put last. -/
  values : ∀ parameter ∈ operation.parameters,
    ((changes.filterMap (·.parameter?)).filter (·.slot = parameter.slot)).getLast? = some parameter
  consumes_nodup : operation.consumes.Nodup
  /-- A media type stands where it was first named. -/
  consumes : operation.consumes = (changes.filterMap (·.consumed?)).eraseDups
  produces_nodup : operation.produces.Nodup
  produces : operation.produces = (changes.filterMap (·.produced?)).eraseDups
  /-- The keys of the responses are in order, each once. -/
  responses_ascending : operation.responses.Ascending
  responses : ∀ key, operation.responses.find? key = changedResponse changes key

section Step

variable {operation : Operation} {changes : List Change}

/-- One more change is made after the others, if it asks for the response. -/
theorem changedResponse_concat (changes : List Change) (change : Change) (key : ResponseKey) :
    changedResponse (changes ++ [change]) key =
      (change.response? key).elim (changedResponse changes key)
        fun make => some (make ((changedResponse changes key).getD {})) := by
  rw [changedResponse, List.filterMap_append, changedResponse]
  cases asks : change.response? key with
  | none =>
      rw [List.filterMap_cons_none asks, List.filterMap_nil, List.append_nil]
      rfl
  | some make =>
      rw [List.filterMap_cons_some asks, List.filterMap_nil]
      cases changes.filterMap (·.response? key) with
      | nil => rfl
      | cons first rest => simp

/-- The response of a key after one more change. -/
theorem find?_apply (operation : Operation) (change : Change) (key : ResponseKey) :
    (operation.apply change).responses.find? key =
      (change.response? key).elim (operation.responses.find? key)
        fun make => some (make (operation.responseAt key)) := by
  cases change with
  | updateResponse own make =>
      rw [apply, find?_updateResponse, Change.response?]
      by_cases same : own = key
      · simp [same]
      · simp [same, Ne.symm same]
  | _ => rfl

/-- The lists after one more change. -/
theorem lists_apply (operation : Operation) (change : Change) :
    (operation.apply change).parameters =
      change.parameter?.elim operation.parameters (putParameter · operation.parameters) ∧
    (operation.apply change).consumes =
      change.consumed?.elim operation.consumes (addOnce · operation.consumes) ∧
    (operation.apply change).produces =
      change.produced?.elim operation.produces (addOnce · operation.produces) := by
  cases change <;> exact ⟨rfl, rfl, rfl⟩

/-- A list that holds what was named so far holds what is named after one more change. -/
theorem named_concat (names : Change → Option String) (changes : List Change) (change : Change) :
    (names change).elim (changes.filterMap names).eraseDups
        (addOnce · (changes.filterMap names).eraseDups) =
      ((changes ++ [change]).filterMap names).eraseDups := by
  rw [List.filterMap_append]
  cases named : names change with
  | none => simp [named]
  | some name =>
      rw [Option.elim_some, addOnce_eraseDups, List.filterMap_cons_some named, List.filterMap_nil]

/-- The parameters that are put, with those of one more change. -/
theorem filterMap_parameter?_concat (changes : List Change) (change : Change) :
    (changes ++ [change]).filterMap (·.parameter?) =
      changes.filterMap (·.parameter?) ++ change.parameter?.toList := by
  rw [List.filterMap_append]
  cases puts : change.parameter? <;> simp [puts]

/-- The slots after one more change. -/
theorem Reflects.slots_apply (reflects : operation.Reflects changes) (change : Change) :
    (operation.apply change).parameters.map Parameter.slot =
      (((changes ++ [change]).filterMap (·.parameter?)).map Parameter.slot).eraseDups := by
  rw [(lists_apply operation change).1, filterMap_parameter?_concat]
  cases puts : change.parameter? with
  | none =>
      rw [Option.toList_none, List.append_nil]
      exact reflects.slots
  | some parameter =>
      rw [Option.toList_some, List.map_append, List.map_singleton, eraseDups_concat,
        Option.elim_some, map_slot_putParameter, reflects.slots]
      simp only [List.mem_eraseDups]

/-- The parameters after one more change. -/
theorem Reflects.values_apply (reflects : operation.Reflects changes) (change : Change)
    {parameter : Parameter} (member : parameter ∈ (operation.apply change).parameters) :
    (((changes ++ [change]).filterMap (·.parameter?)).filter
      (·.slot = parameter.slot)).getLast? = some parameter := by
  rw [(lists_apply operation change).1] at member
  rw [filterMap_parameter?_concat]
  cases puts : change.parameter? with
  | none =>
      rw [puts] at member
      rw [Option.toList_none, List.append_nil]
      exact reflects.values parameter member
  | some added =>
      rw [puts] at member
      rw [Option.toList_some, getLast?_filter_concat]
      rcases mem_putParameter_of_nodup reflects.slots_nodup member with new | ⟨old, other⟩
      · rw [new, if_pos (decide_eq_true rfl)]
      · rw [if_neg (by simpa using Ne.symm other)]
        exact reflects.values parameter old

/-- One more change is reflected as well. -/
theorem Reflects.apply (reflects : operation.Reflects changes) (change : Change) :
    (operation.apply change).Reflects (changes ++ [change]) := by
  have slots := reflects.slots_apply change
  obtain ⟨_, consumes, produces⟩ := lists_apply operation change
  rw [reflects.consumes, named_concat] at consumes
  rw [reflects.produces, named_concat] at produces
  constructor
  · rw [slots]
    exact nodup_eraseDups _
  · exact slots
  · intro parameter member
    exact reflects.values_apply change member
  · rw [consumes]
    exact nodup_eraseDups _
  · exact consumes
  · rw [produces]
    exact nodup_eraseDups _
  · exact produces
  · cases change with
    | updateResponse key make => exact Entries.ascending_insert key _ reflects.responses_ascending
    | _ => exact reflects.responses_ascending
  · intro key
    rw [find?_apply, changedResponse_concat, responseAt, reflects.responses]

/-- A new operation reflects that nothing was changed. -/
theorem reflects_named (id : String) : (named id).Reflects [] := by
  constructor
  · exact List.nodup_nil
  · rfl
  · intro parameter absent
    cases absent
  · exact List.nodup_nil
  · rfl
  · exact List.nodup_nil
  · rfl
  · trivial
  · intro key
    rfl

/-- All changes that were made in turn are reflected. -/
theorem reflects_run (id : String) (changes : List Change) : (run id changes).Reflects changes := by
  induction changes using List.reverseRecOn with
  | nil => exact reflects_named id
  | append_singleton changes change ih =>
      rw [run, List.foldl_append]
      exact ih.apply change

end Step

/-- Asking for the response of a key makes one only where there is none, and touches no other one. -/
structure Opens (operation : Operation) (key : ResponseKey) (change : Response → Response) : Prop where
  keys_of_present : (operation.responses.find? key).isSome →
    (operation.updateResponse key change).responses.keys = operation.responses.keys
  keys_of_absent : operation.responses.find? key = none →
    (operation.updateResponse key change).responses.keys.Perm (key :: operation.responses.keys)
  own : (operation.updateResponse key change).responses.find? key =
    some (change ((operation.responses.find? key).getD {}))
  others : ∀ other, other ≠ key →
    (operation.updateResponse key change).responses.find? other = operation.responses.find? other

/-- A response is opened where it is missing, and no other one is touched. -/
theorem opens_updateResponse {operation : Operation} (ascending : operation.responses.Ascending)
    (key : ResponseKey) (change : Response → Response) : operation.Opens key change where
  keys_of_present := Entries.keys_insert_of_bound _ ascending
  keys_of_absent := Entries.keys_insert_of_unbound _
  own := by
    rw [find?_updateResponse, if_pos rfl]
    rfl
  others other different := by rw [find?_updateResponse, if_neg different]

end Operation

/-! ### Bindings in turn

The operations of a path are kept method by method, so of the bindings the last one of a method counts.
-/

namespace PathItem

/-- The operations of a path after bindings in turn. -/
def bindAll (start : PathItem) (bindings : List (HttpMethod × Operation)) : PathItem :=
  bindings.foldl (fun item binding => (item.exchange binding.1 binding.2).2) start

/-- The operation that a method is bound to last, if it is bound. -/
def lastBound (bindings : List (HttpMethod × Operation)) (method : HttpMethod) : Option Operation :=
  ((bindings.filter (·.1 = method)).getLast?).map (·.2)

/-- The operations of a path are those that bindings in turn make of what was there at the start. -/
structure Reflects (item start : PathItem) (bindings : List (HttpMethod × Operation)) : Prop where
  /-- A method has the operation that it was bound to last. -/
  bound : ∀ method, item.operation? method = (lastBound bindings method).or (start.operation? method)
  /-- The operations are listed in one order of the methods, whatever the order of the bindings. -/
  listed : item.operations =
    [HttpMethod.get, .put, .post, .delete, .options, .head, .patch].filterMap fun method =>
      (lastBound bindings method).or (start.operation? method)
  /-- One more binding gives back what the method had. -/
  returned : ∀ method operation, (item.exchange method operation).1 = item.operation? method
  /-- One more binding changes what its method has, and nothing else. -/
  replaced : ∀ method operation other, (item.exchange method operation).2.operation? other =
    if other = method then some operation else item.operation? other

/-- A binding changes what its method has, and nothing else. -/
theorem operation?_exchange (item : PathItem) (method other : HttpMethod) (operation : Operation) :
    (item.exchange method operation).2.operation? other =
      if other = method then some operation else item.operation? other := by
  rw [exchange_eq]
  split
  · rename_i same
    rw [same]
    exact operation?_set_self item method operation
  · rename_i different
    exact operation?_set_of_ne item different operation

/-- A method has the operation that it was bound to last. -/
theorem operation?_bindAll (start : PathItem) (bindings : List (HttpMethod × Operation))
    (method : HttpMethod) :
    (start.bindAll bindings).operation? method =
      (lastBound bindings method).or (start.operation? method) := by
  induction bindings using List.reverseRecOn with
  | nil => rfl
  | append_singleton bindings binding ih =>
      rw [bindAll, List.foldl_append, List.foldl_cons, List.foldl_nil, operation?_exchange, lastBound,
        getLast?_filter_concat]
      by_cases same : method = binding.1
      · rw [if_pos same, if_pos (decide_eq_true same.symm)]
        rfl
      · rw [if_neg same, if_neg (by simpa using Ne.symm same)]
        exact ih

/-- Bindings in turn make of the operations of a path what they say. -/
theorem reflects_bindAll (start : PathItem) (bindings : List (HttpMethod × Operation)) :
    (start.bindAll bindings).Reflects start bindings where
  bound := operation?_bindAll start bindings
  listed := List.filterMap_congr fun method _ => operation?_bindAll start bindings method
  returned method operation := by rw [exchange_eq]
  replaced method operation other := operation?_exchange _ method other operation

end PathItem

/-- After any changes in turn, an operation has no two parameters of one name and location, each stands
    where it was first put and is as it was put last, media types stand once each where they were first
    named, and asking for a response makes it if it is missing and touches no other one. After any
    bindings in turn, a method has the operation that it was bound to last, binding it gives that one
    back, and the operations are listed in the order of the methods. -/
theorem changes_reflected :
    (∀ (id : String) (changes : List Operation.Change),
      (Operation.run id changes).Reflects changes ∧
      ∀ key change, (Operation.run id changes).Opens key change) ∧
    ∀ (start : PathItem) (bindings : List (HttpMethod × Operation)),
      (start.bindAll bindings).Reflects start bindings := by
  constructor
  · intro id changes
    have reflects := Operation.reflects_run id changes
    exact ⟨reflects, Operation.opens_updateResponse reflects.responses_ascending⟩
  · exact PathItem.reflects_bindAll

end SwaggerDocs
