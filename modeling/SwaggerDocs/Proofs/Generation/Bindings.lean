/-
Module: SwaggerDocs.Proofs.Generation.Bindings
Purpose: The table of operations after functions were bound. A slot is a path with a method. Each
  binding fills its slot with the operation of its function, in place of an earlier one, and touches no
  other slot; so a slot holds the operation of the last function that binds it.
Main exports: Paths.operation?, Paths.Tidy, Paths.slots, operation?_bindFunction,
  operation?_bindFunctions_of_last, Generation.bindAll_last_wins
-/
import Mathlib.Algebra.GroupWithZero.Nat
import Mathlib.Data.Finset.Card
import SwaggerDocs.Generation.Operations
import SwaggerDocs.Proofs.Entries
import SwaggerDocs.Proofs.Swagger.Parts

namespace SwaggerDocs

/-- A line of the documentation of a function binds it to a path and a method. -/
def FunctionDeclaration.Binds (function : FunctionDeclaration) (slot : Binding) : Prop :=
  ∃ line ∈ function.docs.lines, Directive.parseBinding? line = some slot

/-- All declared functions with their files, in the order of files and declarations. -/
def Declarations.placedFunctions (graph : Declarations) :
    List (FileDeclarations × FunctionDeclaration) :=
  graph.files.flatMap fun file => file.functions.map fun function => (file, function)

namespace Paths

/-- The operation in a slot. -/
def operation? (paths : Paths) (slot : Binding) : Option Operation :=
  (paths.find? slot.path).bind fun item => item.operation? slot.method

/-- A table in order, in which no path stands without an operation. -/
structure Tidy (paths : Paths) : Prop where
  ascending : Entries.Ascending paths
  occupied : ∀ entry ∈ paths, entry.2.operations ≠ []

theorem tidy_nil : Tidy [] where
  ascending := trivial
  occupied := by
    intro entry absent
    cases absent

/-- In a tidy table a path stands for the sake of a slot. -/
theorem Tidy.mem_keys_iff {paths : Paths} (tidy : paths.Tidy) {path : String} :
    path ∈ paths.keys ↔ ∃ method, (paths.operation? ⟨path, method⟩).isSome := by
  rw [Entries.mem_keys_iff]
  constructor
  · intro present
    obtain ⟨item, found⟩ := Option.isSome_iff_exists.1 present
    have occupied := tidy.occupied _ (Entries.mem_of_find? found)
    obtain ⟨operation, member⟩ := List.exists_mem_of_ne_nil _ occupied
    obtain ⟨method, bound⟩ := PathItem.mem_operations.1 member
    refine ⟨method, ?_⟩
    simp only [operation?, found, Option.bind_some]
    exact Option.isSome_iff_exists.2 ⟨operation, bound⟩
  · rintro ⟨method, filled⟩
    rw [operation?] at filled
    exact Option.isSome_of_isSome_bind filled

/-- Tidy tables with the same operations in all slots are equal. -/
theorem Tidy.eq_of_operation?_eq {left right : Paths} (leftTidy : left.Tidy)
    (rightTidy : right.Tidy) (same : ∀ slot, left.operation? slot = right.operation? slot) :
    left = right := by
  apply Entries.eq_of_find?_eq leftTidy.ascending rightTidy.ascending
  intro path
  have keys : path ∈ left.keys ↔ path ∈ right.keys := by
    rw [leftTidy.mem_keys_iff, rightTidy.mem_keys_iff]
    simp only [same]
  rw [Entries.mem_keys_iff, Entries.mem_keys_iff] at keys
  cases inLeft : left.find? path with
  | none =>
      cases inRight : right.find? path with
      | none => rfl
      | some item => simp [inLeft, inRight] at keys
  | some item =>
      cases inRight : right.find? path with
      | none => simp [inLeft, inRight] at keys
      | some other =>
          have equal : item = other := by
            apply PathItem.ext_operation?
            intro method
            have bound := same ⟨path, method⟩
            simpa only [operation?, inLeft, inRight, Option.bind_some] using bound
          rw [equal]

/-! ### The number of operations

Slots are counted in place of operations, since a slot is also what a line of the documentation names:
then both sides of the count are lists of one kind. -/

/-- The filled slots of a table. -/
def slots (paths : Paths) : List Binding :=
  paths.flatMap fun entry =>
    (HttpMethod.all.filter fun method => (entry.2.operation? method).isSome).map
      fun method => ⟨entry.1, method⟩

/-- The operations are counted path by path, and are as many as there are filled slots. -/
theorem length_slots (paths : Paths) : paths.slots.length = paths.operationCount := by
  have counted (items : List PathItem) (start : Nat) :
      items.foldl (fun count item => count + item.operations.length) start =
        start + (items.map fun item => item.operations.length).sum := by
    induction items generalizing start with
    | nil => simp
    | cons item rest ih => simp [ih, Nat.add_assoc]
  have methods (item : PathItem) : item.operations.length =
      (HttpMethod.all.filter fun method => (item.operation? method).isSome).length := by
    rw [PathItem.operations, List.length_filterMap_eq_countP, List.countP_eq_length_filter]
  rw [operationCount, counted, Nat.zero_add, slots, List.length_flatMap, Entries.values,
    List.map_map]
  simp only [List.length_map, Function.comp_def, methods]

/-- A slot is listed exactly if there is an operation in it. -/
theorem mem_slots {paths : Paths} (sorted : Entries.Ascending paths) {slot : Binding} :
    slot ∈ paths.slots ↔ (paths.operation? slot).isSome := by
  simp only [slots, List.mem_flatMap, List.mem_map, List.mem_filter]
  constructor
  · rintro ⟨entry, member, method, ⟨_, filled⟩, rfl⟩
    rw [operation?, sorted.find?_of_mem member]
    exact filled
  · intro filled
    rw [operation?] at filled
    obtain ⟨operation, bound⟩ := Option.isSome_iff_exists.1 filled
    obtain ⟨item, found, bound⟩ := Option.bind_eq_some_iff.1 bound
    refine ⟨(slot.path, item), Entries.mem_of_find? found, slot.method, ⟨?_, ?_⟩, rfl⟩
    · cases slot.method <;> decide
    · exact Option.isSome_iff_exists.2 ⟨operation, bound⟩

/-- Each slot is listed once: a method has one place at a path, and no path stands twice. -/
theorem nodup_slots {paths : Paths} (sorted : Entries.Ascending paths) : paths.slots.Nodup := by
  rw [slots, List.nodup_flatMap]
  constructor
  · intro entry _
    have methods : HttpMethod.all.Nodup := by decide
    apply (methods.filter _).map
    intro method other same
    exact congrArg Binding.method same
  · apply sorted.pairwise.imp
    intro earlier later below slot inEarlier inLater
    obtain ⟨method, _, rfl⟩ := List.mem_map.1 inEarlier
    obtain ⟨other, _, same⟩ := List.mem_map.1 inLater
    exact ne_of_gt below (congrArg Binding.path same)

end Paths

namespace Generation

/-- The bindings of a documentation block are those of its lines. -/
theorem mem_bindings {function : FunctionDeclaration} {slot : Binding} :
    slot ∈ bindings function.docs ↔ function.Binds slot := List.mem_filterMap

/-! ### One step

What one binding does to each slot, and that it leaves the table tidy. All that follows is by induction
from these. -/

/-- To bind an operation fills one slot and leaves the others as they are. -/
theorem operation?_bindOperation (paths : Paths) (binding slot : Binding) (operation : Operation) :
    (bindOperation paths binding operation).operation? slot =
      if slot = binding then some operation else paths.operation? slot := by
  rw [bindOperation, Paths.operation?, Entries.find?_insert]
  by_cases samePath : slot.path = binding.path
  · rw [if_pos samePath, Option.bind_some]
    by_cases sameMethod : slot.method = binding.method
    · have same : slot = binding := by
        cases slot
        cases binding
        simp_all
      rw [if_pos same, sameMethod, PathItem.operation?_set_self]
    · have different : slot ≠ binding := fun same => sameMethod (congrArg Binding.method same)
      rw [if_neg different, PathItem.operation?_set_of_ne _ sameMethod, Paths.operation?, samePath]
      cases paths.find? binding.path with
      | none => cases slot.method <;> rfl
      | some item => rfl
  · have different : slot ≠ binding := fun same => samePath (congrArg Binding.path same)
    rw [if_neg samePath, if_neg different, Paths.operation?]

/-- The table stays in order, and the path that is new has the operation that was bound. -/
theorem tidy_bindOperation {paths : Paths} (tidy : paths.Tidy) (binding : Binding)
    (operation : Operation) : (bindOperation paths binding operation).Tidy where
  ascending := Entries.ascending_insert _ _ tidy.ascending
  occupied := by
    intro entry member
    rcases Entries.mem_insert member with new | old
    · rw [new]
      have bound := PathItem.operation?_set_self ((paths.find? binding.path).getD {})
        binding.method operation
      exact List.ne_nil_of_mem (PathItem.mem_operations.2 ⟨binding.method, bound⟩)
    · exact tidy.occupied entry old

/-! ### One function and all functions

A function may bind several slots, to the same operation. Of the functions that bind a slot the last one
decides, so the list of functions is split at this one. -/

/-- A function fills the slots that it binds with its operation, and leaves the others as they are. -/
theorem operation?_bindFunction (files : ExampleFiles) (source : Path) (paths : Paths)
    (function : FunctionDeclaration) (slot : Binding) [Decidable (function.Binds slot)] :
    (bindFunction files source paths function).operation? slot =
      if function.Binds slot then some (buildOperation files source function)
      else paths.operation? slot := by
  simp only [← mem_bindings, bindFunction]
  generalize bindings function.docs = bound
  induction bound generalizing paths with
  | nil => simp
  | cons binding rest ih =>
      rw [List.foldl_cons, ih, operation?_bindOperation]
      by_cases later : slot ∈ rest
      · simp [later]
      · by_cases first : slot = binding <;> simp [first, later]

theorem tidy_bindFunction (files : ExampleFiles) (source : Path) {paths : Paths}
    (tidy : paths.Tidy) (function : FunctionDeclaration) :
    (bindFunction files source paths function).Tidy := by
  rw [bindFunction]
  generalize bindings function.docs = bound
  induction bound generalizing paths with
  | nil => exact tidy
  | cons binding rest ih => exact ih (tidy_bindOperation tidy binding _)

/-- Binds the operations of functions one after another. -/
def bindFunctions (files : ExampleFiles) (functions : List (FileDeclarations × FunctionDeclaration))
    (paths : Paths) : Paths :=
  functions.foldl (fun paths place => bindFunction files place.1.path paths place.2) paths

/-- To bind file by file is to bind the functions of all files in order. -/
theorem bindAll_eq_bindFunctions (files : ExampleFiles) (graph : Declarations) (paths : Paths) :
    bindAll files graph paths = bindFunctions files graph.placedFunctions paths := by
  simp only [bindAll, bindFunctions, Declarations.placedFunctions, List.foldl_flatMap,
    List.foldl_map]

section Run

variable (files : ExampleFiles) {functions : List (FileDeclarations × FunctionDeclaration)}
  {paths : Paths}

/-- Functions in turn leave the table tidy. -/
theorem tidy_bindFunctions (tidy : paths.Tidy) : (bindFunctions files functions paths).Tidy := by
  induction functions generalizing paths with
  | nil => exact tidy
  | cons place rest ih => exact ih (tidy_bindFunction files place.1.path tidy place.2)

/-- A slot that no function binds stays as it is. -/
theorem operation?_bindFunctions_of_unbound {slot : Binding}
    (unbound : ∀ place ∈ functions, ¬place.2.Binds slot) :
    (bindFunctions files functions paths).operation? slot = paths.operation? slot := by
  classical
  induction functions generalizing paths with
  | nil => rfl
  | cons place rest ih =>
      have later : ∀ other ∈ rest, ¬other.2.Binds slot :=
        fun other member => unbound other (List.mem_cons_of_mem _ member)
      refine (ih later).trans ?_
      rw [operation?_bindFunction, if_neg (unbound place List.mem_cons_self)]

/-- A slot holds the operation of the last function that binds it, whatever it held before. -/
theorem operation?_bindFunctions_of_last {before after} {place} {slot : Binding}
    (split : functions = before ++ place :: after) (binds : place.2.Binds slot)
    (last : ∀ later ∈ after, ¬later.2.Binds slot) :
    (bindFunctions files functions paths).operation? slot =
      some (buildOperation files place.1.path place.2) := by
  classical
  have step : bindFunctions files functions paths =
      bindFunctions files after
        (bindFunction files place.1.path (bindFunctions files before paths) place.2) := by
    rw [split, bindFunctions, List.foldl_append]
    rfl
  rw [step, operation?_bindFunctions_of_unbound files last, operation?_bindFunction, if_pos binds]

/-- Among functions of which some bind a slot there is a last one that does. -/
theorem exists_last_binder {slot : Binding} (bound : ∃ place ∈ functions, place.2.Binds slot) :
    ∃ before place after, functions = before ++ place :: after ∧ place.2.Binds slot ∧
      ∀ later ∈ after, ¬later.2.Binds slot := by
  classical
  induction functions with
  | nil =>
      obtain ⟨place, absent, _⟩ := bound
      cases absent
  | cons first rest ih =>
      by_cases later : ∃ place ∈ rest, place.2.Binds slot
      · obtain ⟨before, place, after, split, binds, last⟩ := ih later
        exact ⟨first :: before, place, after, by rw [split, List.cons_append], binds, last⟩
      · obtain ⟨place, member, binds⟩ := bound
        rcases List.mem_cons.1 member with rfl | inRest
        · exact ⟨[], place, rest, rfl, binds, fun other inRest binds =>
            later ⟨other, inRest, binds⟩⟩
        · exact absurd ⟨place, inRest, binds⟩ later

/-- In a table that was empty at the beginning, the filled slots are those that a function binds. -/
theorem isSome_operation?_bindFunctions {slot : Binding} :
    ((bindFunctions files functions []).operation? slot).isSome ↔
      ∃ place ∈ functions, place.2.Binds slot := by
  constructor
  · intro filled
    by_contra unbound
    rw [operation?_bindFunctions_of_unbound files fun place member binds =>
      unbound ⟨place, member, binds⟩] at filled
    cases filled
  · intro bound
    obtain ⟨before, place, after, split, binds, last⟩ := exists_last_binder bound
    rw [operation?_bindFunctions_of_last files split binds last]
    rfl

/-- To bind the same functions once more changes nothing. -/
theorem bindFunctions_again :
    bindFunctions files functions (bindFunctions files functions []) =
      bindFunctions files functions [] := by
  have once : (bindFunctions files functions []).Tidy := tidy_bindFunctions files Paths.tidy_nil
  apply (tidy_bindFunctions files once).eq_of_operation?_eq once
  intro slot
  by_cases bound : ∃ place ∈ functions, place.2.Binds slot
  · obtain ⟨before, place, after, split, binds, last⟩ := exists_last_binder bound
    rw [operation?_bindFunctions_of_last files split binds last,
      operation?_bindFunctions_of_last files split binds last]
  · exact operation?_bindFunctions_of_unbound files fun place member binds =>
      bound ⟨place, member, binds⟩

end Run

/-- The bindings of all functions, in the order of files, functions and lines. -/
def allBindings (graph : Declarations) : List Binding :=
  graph.placedFunctions.flatMap fun place => bindings place.2.docs

/-- A slot is listed if some function binds it. -/
theorem mem_allBindings {graph : Declarations} {slot : Binding} :
    slot ∈ allBindings graph ↔ ∃ place ∈ graph.placedFunctions, place.2.Binds slot := by
  simp only [allBindings, List.mem_flatMap, mem_bindings]

/-- Each function counts as often as its lines bind it, twice for the same slot included. -/
theorem length_allBindings (graph : Declarations) :
    (allBindings graph).length =
      (graph.placedFunctions.map fun place => boundCount place.2).sum := by
  rw [allBindings, List.length_flatMap]
  rfl

/-- The table of a build is tidy, since it starts empty. -/
theorem tidy_bindAll (files : ExampleFiles) (graph : Declarations) :
    (bindAll files graph []).Tidy := by
  rw [bindAll_eq_bindFunctions]
  exact tidy_bindFunctions files Paths.tidy_nil

/-- Every bound operation is that of a function. -/
theorem exists_built {files : ExampleFiles} {graph : Declarations} {entry : String × PathItem}
    (member : entry ∈ bindAll files graph []) {method : HttpMethod} {operation : Operation}
    (bound : entry.2.operation? method = some operation) :
    ∃ place ∈ graph.placedFunctions, operation = buildOperation files place.1.path place.2 := by
  have held : (bindAll files graph []).operation? ⟨entry.1, method⟩ = some operation := by
    rw [Paths.operation?, (tidy_bindAll files graph).ascending.find?_of_mem member]
    exact bound
  rw [bindAll_eq_bindFunctions] at held
  have filled : ∃ place ∈ graph.placedFunctions, place.2.Binds ⟨entry.1, method⟩ :=
    (isSome_operation?_bindFunctions files).1 (Option.isSome_iff_exists.2 ⟨operation, held⟩)
  obtain ⟨before, place, after, split, binds, last⟩ := exists_last_binder filled
  rw [operation?_bindFunctions_of_last files split binds last] at held
  refine ⟨place, ?_, (Option.some.inj held).symm⟩
  rw [split]
  exact List.mem_append_right _ List.mem_cons_self

/-- There are as many operations as there are different bindings. -/
theorem operationCount_bindAll (files : ExampleFiles) (graph : Declarations) :
    (bindAll files graph []).operationCount = (allBindings graph).toFinset.card := by
  have tidy := tidy_bindAll files graph
  have same : (bindAll files graph []).slots.toFinset = (allBindings graph).toFinset := by
    ext slot
    rw [List.mem_toFinset, List.mem_toFinset, Paths.mem_slots tidy.ascending, mem_allBindings,
      bindAll_eq_bindFunctions, isSome_operation?_bindFunctions]
  rw [← Paths.length_slots, ← same, List.toFinset_card_of_nodup (Paths.nodup_slots tidy.ascending)]

/-- After all functions are bound, the paths are those that some line binds, each of them has an
    operation, and a slot holds the operation of the last function that binds it. The operations are as
    many as the different bindings: at most as many as the functions count together, and exactly as
    many if no slot is bound twice. To bind all functions once more changes nothing. -/
theorem bindAll_last_wins (files : ExampleFiles) (graph : Declarations) :
    let paths := bindAll files graph []
    let functions := graph.placedFunctions
    let counted := (functions.map fun place => boundCount place.2).sum
    (∀ path, path ∈ paths.keys ↔ ∃ place ∈ functions, ∃ method, place.2.Binds ⟨path, method⟩) ∧
      (∀ slot, (paths.operation? slot).isSome ↔ ∃ place ∈ functions, place.2.Binds slot) ∧
      (∀ slot operation, paths.operation? slot = some operation ↔
        ∃ before place after, functions = before ++ place :: after ∧ place.2.Binds slot ∧
          (∀ later ∈ after, ¬later.2.Binds slot) ∧
            operation = buildOperation files place.1.path place.2) ∧
      (∀ entry ∈ paths, entry.2.operations ≠ []) ∧
      paths.operationCount = (allBindings graph).toFinset.card ∧
      paths.operationCount ≤ counted ∧
      (paths.operationCount = counted ↔ (allBindings graph).Nodup) ∧
      bindAll files graph paths = paths := by
  intro paths functions counted
  have run : paths = bindFunctions files functions [] := bindAll_eq_bindFunctions files graph []
  have tidy : paths.Tidy := run ▸ tidy_bindFunctions files Paths.tidy_nil
  have filled : ∀ slot, (paths.operation? slot).isSome ↔
      ∃ place ∈ functions, place.2.Binds slot := by
    intro slot
    rw [run]
    exact isSome_operation?_bindFunctions files
  have distinct : paths.operationCount = (allBindings graph).toFinset.card :=
    operationCount_bindAll files graph
  -- The count goes by lines, so a slot that is bound twice counts twice.
  have total : counted = (allBindings graph).length := (length_allBindings graph).symm
  refine ⟨?_, filled, ?_, tidy.occupied, distinct, ?_, ?_, ?_⟩
  · intro path
    rw [tidy.mem_keys_iff]
    constructor
    · rintro ⟨method, present⟩
      obtain ⟨place, member, binds⟩ := (filled _).1 present
      exact ⟨place, member, method, binds⟩
    · rintro ⟨place, member, method, binds⟩
      exact ⟨method, (filled _).2 ⟨place, member, binds⟩⟩
  · intro slot operation
    constructor
    · intro held
      have bound : ∃ place ∈ functions, place.2.Binds slot := (filled slot).1 (by rw [held]; rfl)
      obtain ⟨before, place, after, split, binds, last⟩ := exists_last_binder bound
      rw [run, operation?_bindFunctions_of_last files split binds last] at held
      exact ⟨before, place, after, split, binds, last, (Option.some.inj held).symm⟩
    · rintro ⟨before, place, after, split, binds, last, rfl⟩
      rw [run]
      exact operation?_bindFunctions_of_last files split binds last
  · rw [distinct, total]
    exact List.toFinset_card_le _
  · rw [distinct, total]
    constructor
    · intro equal
      exact Multiset.toFinset_card_eq_card_iff_nodup.1 equal
    · exact List.toFinset_card_of_nodup
  · rw [bindAll_eq_bindFunctions, run]
    exact bindFunctions_again files

end Generation

end SwaggerDocs
