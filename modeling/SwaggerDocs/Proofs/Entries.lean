/-
Module: SwaggerDocs.Proofs.Entries
Purpose: Maps as ascending lists of entries: which entries the operations leave, that they keep the
  order, and that two maps in order with the same bindings are the same list.
Main exports: Entries.find?_insert, Entries.find?_extend, Entries.mem_insert, Entries.mem_extend,
  Entries.mem_keys_iff, Entries.keys_insert_of_unbound, Entries.keys_insert_of_bound,
  Entries.Ascending.find?_of_mem, Entries.ascending_insert, Entries.ofList_of_ascending,
  Entries.eq_of_find?_eq, Entries.extend_comm
-/
import Mathlib.Data.String.Basic
import SwaggerDocs.Entries

namespace SwaggerDocs

namespace Entries

section Lookup

variable {κ α : Type} [DecidableEq κ]

/-- A value that is found stands in an entry with its key. -/
theorem mem_of_find? {k : κ} {v : α} {entries : Entries κ α} (found : entries.find? k = some v) :
    (k, v) ∈ entries := by
  induction entries with
  | nil => cases found
  | cons entry rest ih =>
      obtain ⟨key, value⟩ := entry
      rw [find?] at found
      split at found
      · rename_i same
        cases found
        rw [same]
        exact List.mem_cons_self
      · exact List.mem_cons_of_mem _ (ih found)

/-- The keys are those at which a value is found. -/
theorem mem_keys_iff {k : κ} {entries : Entries κ α} :
    k ∈ entries.keys ↔ (entries.find? k).isSome := by
  induction entries with
  | nil => simp [keys, find?]
  | cons entry rest ih =>
      obtain ⟨key, value⟩ := entry
      rw [keys] at ih
      rw [keys, List.map_cons, List.mem_cons, find?, ih]
      by_cases same : key = k
      · simp [same]
      · simp [same, Ne.symm same]

/-- Entries at the front hide later ones of the same key. -/
theorem find?_append (k : κ) (first later : Entries κ α) :
    find? k (first ++ later) = (find? k first).or (find? k later) := by
  induction first with
  | nil => rfl
  | cons entry rest ih =>
      obtain ⟨key, value⟩ := entry
      rw [List.cons_append, find?, find?, ih]
      split <;> rfl

/-- Nothing is found at a key that no entry has. -/
theorem find?_eq_none {k : κ} {entries : Entries κ α} (absent : ∀ entry ∈ entries, entry.1 ≠ k) :
    entries.find? k = none := by
  cases found : entries.find? k with
  | none => rfl
  | some v => exact absurd rfl (absent _ (mem_of_find? found))

variable [LT κ] [DecidableLT κ]

/-- To insert binds the key and leaves the others as they are. -/
theorem find?_insert (k j : κ) (v : α) (entries : Entries κ α) :
    (entries.insert k v).find? j = if j = k then some v else entries.find? j := by
  split
  · rename_i same
    rw [same]
    exact find?_insert_self k v entries
  · rename_i different
    exact find?_insert_of_ne different v entries

/-- Binding a key that is not bound adds this key alone. -/
theorem keys_insert_of_unbound {k : κ} (v : α) {entries : Entries κ α}
    (unbound : entries.find? k = none) : (entries.insert k v).keys.Perm (k :: entries.keys) := by
  induction entries with
  | nil => exact List.Perm.refl _
  | cons head rest ih =>
      obtain ⟨key, value⟩ := head
      rw [find?] at unbound
      split at unbound
      · cases unbound
      · rename_i different
        rw [insert, if_neg different]
        split
        · exact List.Perm.refl _
        · apply List.Perm.trans ((ih unbound).cons key)
          exact List.Perm.swap k key (keys rest)

@[simp] theorem extend_nil (entries : Entries κ α) : entries.extend [] = entries := rfl

@[simp] theorem extend_singleton (entries : Entries κ α) (key : κ) (value : α) :
    entries.extend [(key, value)] = entries.insert key value := rfl

/-- Bindings are inserted one after another. -/
theorem extend_append (entries first later : Entries κ α) :
    entries.extend (first ++ later) = (entries.extend first).extend later := List.foldl_append

/-- An extended map binds a key as the last added entry of the key does. -/
theorem find?_extend (k : κ) (entries added : Entries κ α) :
    find? k (entries.extend added) = (find? k added.reverse).or (find? k entries) := by
  induction added generalizing entries with
  | nil => rfl
  | cons entry rest ih =>
      obtain ⟨key, value⟩ := entry
      have step : entries.extend ((key, value) :: rest) = (entries.insert key value).extend rest := rfl
      rw [step, ih, find?_insert, List.reverse_cons, find?_append, Option.or_assoc]
      by_cases same : key = k
      · simp [find?, same]
      · simp [find?, same, Ne.symm same]

/-- An entry after an insertion is the new one or an old one. -/
theorem mem_insert {k : κ} {v : α} {entries : Entries κ α} {entry : κ × α}
    (member : entry ∈ entries.insert k v) : entry = (k, v) ∨ entry ∈ entries := by
  induction entries with
  | nil => exact Or.inl (List.mem_singleton.1 member)
  | cons head rest ih =>
      obtain ⟨key, value⟩ := head
      rw [insert] at member
      split at member
      · rcases List.mem_cons.1 member with new | old
        · exact Or.inl new
        · exact Or.inr (List.mem_cons_of_mem _ old)
      · split at member
        · exact List.mem_cons.1 member
        · rcases List.mem_cons.1 member with first | later
          · exact Or.inr (first ▸ List.mem_cons_self)
          · rcases ih later with new | old
            · exact Or.inl new
            · exact Or.inr (List.mem_cons_of_mem _ old)

/-- An entry of an extended map is one of either map. -/
theorem mem_extend {entries added : Entries κ α} {entry : κ × α}
    (member : entry ∈ entries.extend added) : entry ∈ entries ∨ entry ∈ added := by
  induction added generalizing entries with
  | nil => exact Or.inl member
  | cons head rest ih =>
      rcases ih member with early | late
      · rcases mem_insert early with new | old
        · exact Or.inr (new ▸ List.mem_cons_self)
        · exact Or.inl old
      · exact Or.inr (List.mem_cons_of_mem _ late)

/-- An entry of the map of a list is one of the list. -/
theorem mem_of_mem_ofList {bindings : List (κ × α)} {entry : κ × α}
    (member : entry ∈ ofList bindings) : entry ∈ bindings := by
  rcases mem_extend member with absent | listed
  · cases absent
  · exact listed

end Lookup

section Order

variable {κ α : Type} [LinearOrder κ]

/-- In a map in order, the first key is below all others. -/
theorem Ascending.head_lt {k : κ} {v : α} {rest : Entries κ α}
    (sorted : Ascending ((k, v) :: rest)) : ∀ entry ∈ rest, k < entry.1 := by
  induction rest generalizing k v with
  | nil => simp
  | cons head tail ih =>
      obtain ⟨key, value⟩ := head
      intro entry member
      rcases List.mem_cons.1 member with first | later
      · rw [first]
        exact sorted.1
      · exact lt_trans sorted.1 (ih sorted.2 entry later)

theorem Ascending.tail {k : κ} {v : α} {rest : Entries κ α}
    (sorted : Ascending ((k, v) :: rest)) : Ascending rest := by
  cases rest with
  | nil => trivial
  | cons head tail => exact sorted.2

/-- In a map in order, every key is below all later ones. -/
theorem Ascending.pairwise {entries : Entries κ α} (sorted : Ascending entries) :
    entries.Pairwise fun earlier later => earlier.1 < later.1 := by
  induction entries with
  | nil => exact List.Pairwise.nil
  | cons head rest ih => exact List.pairwise_cons.2 ⟨sorted.head_lt, ih sorted.tail⟩

/-- In a map in order, an entry is the binding of its key. -/
theorem Ascending.find?_of_mem {entries : Entries κ α} (sorted : Ascending entries)
    {entry : κ × α} (member : entry ∈ entries) : entries.find? entry.1 = some entry.2 := by
  induction entries with
  | nil => cases member
  | cons head rest ih =>
      obtain ⟨key, value⟩ := head
      rcases List.mem_cons.1 member with first | later
      · rw [first, find?, if_pos rfl]
      · rw [find?, if_neg (ne_of_lt (sorted.head_lt entry later))]
        exact ih sorted.tail later

/-- An entry may stand before entries with greater keys. -/
theorem ascending_cons {k : κ} {v : α} {rest : Entries κ α} (below : ∀ entry ∈ rest, k < entry.1)
    (sorted : Ascending rest) : Ascending ((k, v) :: rest) := by
  cases rest with
  | nil => trivial
  | cons head tail => exact ⟨below head List.mem_cons_self, sorted⟩

theorem ascending_insert (k : κ) (v : α) {entries : Entries κ α} (sorted : Ascending entries) :
    Ascending (entries.insert k v) := by
  induction entries with
  | nil => trivial
  | cons head rest ih =>
      obtain ⟨key, value⟩ := head
      rw [insert]
      split
      · rename_i same
        subst same
        exact ascending_cons sorted.head_lt sorted.tail
      · split
        · rename_i below
          exact ⟨below, sorted⟩
        · rename_i different notBelow
          have above : key < k := lt_of_le_of_ne (not_lt.1 notBelow) different
          refine ascending_cons ?_ (ih sorted.tail)
          intro entry member
          rcases mem_insert member with new | old
          · rw [new]
            exact above
          · exact sorted.head_lt entry old

/-- To insert several bindings keeps the order. -/
theorem ascending_extend {entries : Entries κ α} (added : Entries κ α) (sorted : Ascending entries) :
    Ascending (entries.extend added) := by
  induction added generalizing entries with
  | nil => exact sorted
  | cons entry rest ih => exact ih (ascending_insert entry.1 entry.2 sorted)

/-- Binding a bound key again adds no key. -/
theorem keys_insert_of_bound {k : κ} (v : α) {entries : Entries κ α} (sorted : Ascending entries)
    (bound : (entries.find? k).isSome) : (entries.insert k v).keys = entries.keys := by
  induction entries with
  | nil => cases bound
  | cons head rest ih =>
      obtain ⟨key, value⟩ := head
      rw [insert]
      by_cases same : key = k
      · rw [if_pos same, same]
        rfl
      · rw [find?, if_neg same] at bound
        obtain ⟨old, found⟩ := Option.isSome_iff_exists.1 bound
        have above : key < k := sorted.head_lt _ (mem_of_find? found)
        rw [if_neg same, if_neg (not_lt_of_gt above)]
        exact congrArg (key :: ·) (ih sorted.tail bound)

/-- A key above all others is bound at the end. -/
theorem insert_of_above {k : κ} (v : α) {entries : Entries κ α}
    (above : ∀ entry ∈ entries, entry.1 < k) : entries.insert k v = entries ++ [(k, v)] := by
  induction entries with
  | nil => rfl
  | cons head rest ih =>
      have below := above head List.mem_cons_self
      rw [insert, if_neg (ne_of_lt below), if_neg (not_lt_of_gt below),
        ih fun entry member => above entry (List.mem_cons_of_mem _ member)]
      rfl

/-- Bindings that are in order already are taken as they are. -/
theorem ofList_of_ascending {bindings : Entries κ α} (sorted : Ascending bindings) :
    ofList bindings = bindings := by
  have appended (entries : Entries κ α) (rest : Entries κ α)
      (ordered : (entries ++ rest).Pairwise fun earlier later => earlier.1 < later.1) :
      entries.extend rest = entries ++ rest := by
    induction rest generalizing entries with
    | nil => exact (List.append_nil _).symm
    | cons entry rest ih =>
        have above : ∀ earlier ∈ entries, earlier.1 < entry.1 := by
          intro earlier member
          exact (List.pairwise_append.1 ordered).2.2 earlier member entry List.mem_cons_self
        have inserted := insert_of_above entry.2 above
        have regrouped : entries ++ entry :: rest = entries ++ [entry] ++ rest := by simp
        rw [regrouped] at ordered ⊢
        refine Eq.trans ?_ (ih _ ordered)
        exact congrArg (fun reached => extend reached rest) inserted
  exact appended [] bindings sorted.pairwise

/-- A map that is made of bindings stands in order. -/
theorem ascending_ofList (bindings : List (κ × α)) : Ascending (ofList bindings) :=
  ascending_extend bindings trivial

/-- Maps in order with the same bindings are equal. -/
theorem eq_of_find?_eq {left right : Entries κ α} (leftSorted : Ascending left)
    (rightSorted : Ascending right) (same : ∀ k, left.find? k = right.find? k) : left = right := by
  induction left generalizing right with
  | nil =>
      cases right with
      | nil => rfl
      | cons head rest =>
          have bound := same head.1
          simp [find?] at bound
  | cons head rest ih =>
      obtain ⟨k, v⟩ := head
      cases right with
      | nil =>
          have bound := same k
          simp [find?] at bound
      | cons other others =>
          obtain ⟨j, w⟩ := other
          -- The smaller of the two first keys would be bound on its side only.
          have notBelow : ¬k < j := by
            intro below
            have absent : find? k ((j, w) :: others) = none := find?_eq_none fun entry member => by
              rcases List.mem_cons.1 member with first | later
              · exact first ▸ ne_of_gt below
              · exact ne_of_gt (lt_trans below (rightSorted.head_lt entry later))
            have bound := (same k).trans absent
            simp [find?] at bound
          have notAbove : ¬j < k := by
            intro below
            have absent : find? j ((k, v) :: rest) = none := find?_eq_none fun entry member => by
              rcases List.mem_cons.1 member with first | later
              · exact first ▸ ne_of_gt below
              · exact ne_of_gt (lt_trans below (leftSorted.head_lt entry later))
            have bound := (same j).symm.trans absent
            simp [find?] at bound
          obtain rfl : k = j := le_antisymm (not_lt.1 notAbove) (not_lt.1 notBelow)
          have values := same k
          simp only [find?, if_true, Option.some.injEq] at values
          subst values
          refine congrArg _ (ih leftSorted.tail rightSorted.tail fun i => ?_)
          -- The other entries bind nothing at the first key, and elsewhere what the whole maps do.
          by_cases first : i = k
          · subst first
            rw [find?_eq_none fun entry member => ne_of_gt (leftSorted.head_lt entry member),
              find?_eq_none fun entry member => ne_of_gt (rightSorted.head_lt entry member)]
          · have bound := same i
            simpa only [find?, if_neg (Ne.symm first)] using bound

/-- Two maps that bind different keys extend a map in order in either order. -/
theorem extend_comm {entries first later : Entries κ α} (sorted : Ascending entries)
    (apart : ∀ entry ∈ first, ∀ other ∈ later, entry.1 ≠ other.1) :
    (entries.extend first).extend later = (entries.extend later).extend first := by
  apply eq_of_find?_eq
  · exact ascending_extend later (ascending_extend first sorted)
  · exact ascending_extend first (ascending_extend later sorted)
  · intro k
    rw [find?_extend, find?_extend, find?_extend, find?_extend]
    cases inFirst : find? k first.reverse with
    | none => rfl
    | some value =>
        have unbound : find? k later.reverse = none := by
          apply find?_eq_none
          intro entry member same
          have bound := List.mem_reverse.1 (mem_of_find? inFirst)
          exact apart _ bound entry (List.mem_reverse.1 member) same.symm
        rw [unbound]
        rfl

end Order

end Entries

end SwaggerDocs
