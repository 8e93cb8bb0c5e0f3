/-
Module: SwaggerDocs.Proofs.Text.Scan
Purpose: What the steps of readers accept, and what they leave: fixed beginnings, runs of a class of
  characters, and texts without blank characters at either end.
Main exports: stripStart?_eq_some_iff, char?_eq_some_iff, run?_eq_some_iff, isBlank_of_isWordChar,
  trim_eq_self, getLast?_trim
-/
import Mathlib.Data.List.TakeWhile
import SwaggerDocs.Text.Scan

namespace SwaggerDocs.Text

/-! ### Fixed beginnings

Readers take a word or a character away and go on with the rest. -/

/-- A beginning is taken away from exactly the texts that start with it. -/
theorem stripStart?_eq_some_iff {start cs rest : List Char} :
    stripStart? start cs = some rest ↔ cs = start ++ rest := by
  induction start generalizing cs with
  | nil => simp [stripStart?, eq_comm]
  | cons p ps ih =>
      cases cs with
      | nil => simp [stripStart?]
      | cons c cs =>
          rw [stripStart?]
          by_cases same : p = c
          · simp [same, ih]
          · simp [same, Ne.symm same]

/-- A character is taken away from exactly the texts that start with it. -/
theorem char?_eq_some_iff {c : Char} {cs rest : List Char} :
    char? c cs = some rest ↔ cs = c :: rest := by
  cases cs with
  | nil => simp [char?]
  | cons d cs =>
      rw [char?]
      by_cases same : d = c <;> simp [same]

/-! ### Runs

A run is taken as long as possible, so what follows it is an end of the run. -/

/-- No character of a class stands at the beginning of a text. -/
def EndsRun (p : Char → Bool) (rest : List Char) : Prop := ∀ c ∈ rest.head?, p c = false

theorem endsRun_nil (p : Char → Bool) : EndsRun p [] := by
  intro c absent
  cases absent

/-- A character ends the runs that it cannot be part of. -/
theorem endsRun_cons {p : Char → Bool} {c : Char} {rest : List Char} :
    EndsRun p (c :: rest) ↔ p c = false := by
  simp [EndsRun]

/-- A run is as long as it can be, and is not empty. -/
theorem run?_eq_some_iff {p : Char → Bool} {cs run rest : List Char} :
    run? p cs = some (run, rest) ↔
      cs = run ++ rest ∧ run ≠ [] ∧ (∀ c ∈ run, p c = true) ∧ EndsRun p rest := by
  constructor
  · intro read
    have split := List.takeWhile_append_dropWhile (p := p) (l := cs)
    rw [run?] at read
    cases taken : cs.takeWhile p with
    | nil =>
        rw [taken] at read
        cases read
    | cons c more =>
        rw [taken] at read split
        cases read
        refine ⟨split.symm, by simp, ?_, ?_⟩
        · intro d member
          exact List.mem_takeWhile_imp (taken ▸ member)
        · intro d first
          have stopped := List.head?_dropWhile_not p cs
          rw [Option.mem_def.1 first] at stopped
          exact stopped
  · rintro ⟨rfl, nonempty, all, ends⟩
    -- What follows does not go on with the run, so none of it is taken.
    have stopped : rest.takeWhile p = [] ∧ rest.dropWhile p = rest := by
      cases rest with
      | nil => exact ⟨rfl, rfl⟩
      | cons c rest =>
          have other := endsRun_cons.1 ends
          simp [other]
    have whole : run.takeWhile p = run := List.takeWhile_eq_self_iff.2 all
    have gone : run.dropWhile p = [] := List.dropWhile_eq_nil_iff.2 all
    have taken : (run ++ rest).takeWhile p = run := by
      rw [List.takeWhile_append, whole, if_pos rfl, stopped.1, List.append_nil]
    have left : (run ++ rest).dropWhile p = rest := by
      rw [List.dropWhile_append, gone, List.isEmpty_nil, if_pos rfl, stopped.2]
    rw [run?, taken, left]
    cases run with
    | nil => exact absurd rfl nonempty
    | cons c run => rfl

/-! ### Blank characters

The blank characters are finitely many, so what is said of all of them can be checked one by one. -/

/-- The code points of blank characters. -/
def blankCodes : List Nat :=
  [0x9, 0xa, 0xb, 0xc, 0xd, 0x20, 0x85, 0xa0, 0x1680, 0x2000, 0x2001, 0x2002, 0x2003, 0x2004, 0x2005,
    0x2006, 0x2007, 0x2008, 0x2009, 0x200a, 0x2028, 0x2029, 0x202f, 0x205f, 0x3000]

/-- A code point that a table covers lies in the first range or is covered by the others. -/
theorem covers_cons {first last code : Nat} {rest : List CodeRange}
    (covered : covers ((first, last) :: rest) code = true) :
    (first ≤ code ∧ code ≤ last) ∨ covers rest code = true := by
  rw [covers] at covered
  split at covered
  · cases covered
  · rename_i notBelow
    rcases Bool.or_eq_true_iff.1 covered with inside | later
    · exact Or.inl ⟨Nat.le_of_not_lt notBelow, of_decide_eq_true inside⟩
    · exact Or.inr later

/-- The blank characters are those that are listed. -/
theorem mem_blankCodes {c : Char} (blank : isBlank c = true) : c.toNat ∈ blankCodes := by
  rw [isBlank, blanks] at blank
  simp only [blankCodes, List.mem_cons, List.not_mem_nil, or_false]
  -- One range after another; the table has no eleventh.
  iterate 10
    rcases covers_cons blank with inside | blank
    · omega
  cases blank

/-- No word character is blank. -/
theorem isBlank_of_isWordChar {c : Char} (word : isWordChar c = true) : isBlank c = false := by
  have apart : ∀ code ∈ blankCodes,
      (covers letters code || covers extenders code || covers wordExtras code) = false := by
    decide +kernel
  by_contra blank
  have code := apart c.toNat (mem_blankCodes (by simpa using blank))
  rw [isWordChar, code] at word
  cases word

/-! ### Trimming

A text without blanks at either end is left as it is. -/

/-- A text ends in a character that is not blank. -/
def EndsSolid (cs : List Char) : Prop := ∃ c ∈ cs.getLast?, isBlank c = false

/-- Nothing is trimmed off after a character that is not blank. -/
theorem trimEnd_append_solid (before : List Char) {c : Char} (solid : isBlank c = false) :
    trimEnd (before ++ [c]) = before ++ [c] := by
  induction before with
  | nil => simp [trimEnd, solid]
  | cons d before ih =>
      rw [List.cons_append, trimEnd, ih]
      cases before <;> rfl

/-- A text that does not end in a blank is trimmed at its end already. -/
theorem trimEnd_eq_self {cs : List Char} (ends : EndsSolid cs) : trimEnd cs = cs := by
  obtain ⟨c, last, solid⟩ := ends
  obtain ⟨before, rfl⟩ := List.getLast?_eq_some_iff.1 last
  exact trimEnd_append_solid before solid

/-- A text with no blank character at either end is its own trimmed form. -/
theorem trim_eq_self {c : Char} {cs : List Char} (starts : isBlank c = false)
    (ends : EndsSolid (c :: cs)) : trim (c :: cs) = c :: cs := by
  have kept : trimStart (c :: cs) = c :: cs := by simp [trimStart, starts]
  rw [trim, kept, trimEnd_eq_self ends]

/-- A trimmed text does not end in a blank. -/
theorem getLast?_trimEnd (cs : List Char) : ∀ c ∈ (trimEnd cs).getLast?, isBlank c = false := by
  induction cs with
  | nil => simp [trimEnd]
  | cons d cs ih =>
      rw [trimEnd]
      cases trimmed : trimEnd cs with
      | nil =>
          dsimp only
          split
          · simp
          · rename_i solid
            simpa using solid
      | cons e kept =>
          rw [trimmed] at ih
          simpa [List.getLast?_cons_cons] using ih

/-- What is trimmed has no blank character at its end. -/
theorem getLast?_trim (cs : List Char) : ∀ c ∈ (trim cs).getLast?, isBlank c = false :=
  getLast?_trimEnd (trimStart cs)

end SwaggerDocs.Text
