/-
Module: SwaggerDocs.Entries
Purpose: Finite maps as lists of entries in ascending order of their keys. Documents are written in
  the order of their entries, so two maps with the same bindings are written the same way.
Main exports: Entries, Entries.find?, Entries.insert, Entries.extend, Entries.keys
-/

namespace SwaggerDocs

/-- The entries of a finite map. The operations below keep the keys in strictly ascending order. -/
abbrev Entries (κ : Type) (α : Type) := List (κ × α)

namespace Entries

variable {κ α : Type}

/-- The value bound to a key. -/
def find? [DecidableEq κ] (k : κ) : Entries κ α → Option α
  | [] => none
  | (key, value) :: rest => if key = k then some value else find? k rest

/-- Whether a key is bound. -/
def contains [DecidableEq κ] (k : κ) (entries : Entries κ α) : Bool := (entries.find? k).isSome

/-- Binds a key, in the place that its order gives it, or in place of an earlier binding. -/
def insert [LT κ] [DecidableLT κ] [DecidableEq κ] (k : κ) (v : α) : Entries κ α → Entries κ α
  | [] => [(k, v)]
  | (key, value) :: rest =>
      if key = k then (k, v) :: rest
      else if k < key then (k, v) :: (key, value) :: rest
      else (key, value) :: insert k v rest

/-- Binds all entries of a second map, which win over earlier bindings. -/
def extend [LT κ] [DecidableLT κ] [DecidableEq κ] (entries added : Entries κ α) : Entries κ α :=
  added.foldl (fun acc entry => acc.insert entry.1 entry.2) entries

/-- The map of a list of bindings, of which a later one wins. -/
def ofList [LT κ] [DecidableLT κ] [DecidableEq κ] (bindings : List (κ × α)) : Entries κ α :=
  extend [] bindings

/-- The bound keys in ascending order. -/
def keys (entries : Entries κ α) : List κ := entries.map Prod.fst

/-- The values in ascending order of their keys. -/
def values (entries : Entries κ α) : List α := entries.map Prod.snd

/-- The keys of a list of entries are in strictly ascending order. -/
def Ascending [LT κ] : Entries κ α → Prop
  | [] => True
  | [_] => True
  | (k, _) :: (k', v') :: rest => k < k' ∧ Ascending ((k', v') :: rest)

@[simp] theorem find?_nil [DecidableEq κ] (k : κ) : find? k ([] : Entries κ α) = none := rfl

theorem find?_insert_self [LT κ] [DecidableLT κ] [DecidableEq κ] (k : κ) (v : α)
    (entries : Entries κ α) : (entries.insert k v).find? k = some v := by
  induction entries with
  | nil => simp [insert, find?]
  | cons entry rest ih =>
    obtain ⟨key, value⟩ := entry
    simp only [insert]
    split
    · simp [find?]
    · split
      · simp [find?]
      · rename_i h _
        simp [find?, h, ih]

theorem find?_insert_of_ne [LT κ] [DecidableLT κ] [DecidableEq κ] {k j : κ} (h : j ≠ k) (v : α)
    (entries : Entries κ α) : (entries.insert k v).find? j = entries.find? j := by
  induction entries with
  | nil => simp [insert, find?, Ne.symm h]
  | cons entry rest ih =>
    obtain ⟨key, value⟩ := entry
    simp only [insert]
    split
    · rename_i hk
      subst hk
      simp [find?, Ne.symm h]
    · split
      · simp [find?, Ne.symm h]
      · simp [find?, ih]

end Entries

end SwaggerDocs
