/-
Module: SwaggerDocs.Proofs.Source.Attributes
Purpose: How documentation comments are read as attributes. A repetition of a reader does not depend on its
  fuel, if the reader takes tokens; so the tokens of a documentation comment give its attribute, and the
  tokens after it give the attributes that they would give alone.
Main exports: Grammar.run_repeatWithin, Grammar.run_repeatWhile_of_round, Grammar.attributesAt,
  Grammar.run_attributesAt
-/
import SwaggerDocs.Proofs.Source.DocLines
import SwaggerDocs.Source.Grammar.Types
import SwaggerDocs.Source.Lexer

namespace SwaggerDocs.Source.Grammar

/-! ### Repetition

A repetition runs on fuel, as many rounds as there are tokens. With a reader that takes tokens in each
round this is enough from any of the rounds on, so a first round can be split off. -/

section Repeat

variable {α : Type} {test : List Token → Bool} {reader : TokenReader α}

/-- One round of a repetition. -/
theorem run_repeatWithin_succ (fuel : Nat) (tokens : List Token) :
    (repeatWithin test reader (fuel + 1)).run tokens =
      if test tokens = true then
        (reader.run tokens).bind fun read =>
          ((repeatWithin test reader fuel).run read.2).map fun later => (read.1 :: later.1, later.2)
      else some ([], tokens) := by
  rw [repeatWithin]
  by_cases goes : test tokens = true
  · rw [if_pos goes]
    simp only [StateT.run_bind, StateT.run_get, Option.pure_def, Option.bind_eq_bind,
      Option.bind_some, goes, if_true]
    congr 1
    funext read
    cases (repeatWithin test reader fuel).run read.2 <;> rfl
  · rw [if_neg goes]
    simp [goes]

/-- The number of tokens is fuel enough for a reader that takes some of them. -/
theorem run_repeatWithin (ends : test [] = false)
    (takes : ∀ tokens value rest,
      reader.run tokens = some (value, rest) → rest.length < tokens.length)
    (bound : Nat) {fuel : Nat} {tokens : List Token} (few : tokens.length ≤ bound)
    (enough : tokens.length ≤ fuel) :
    (repeatWithin test reader fuel).run tokens = (repeatWhile test reader).run tokens := by
  have whole (tokens : List Token) : (repeatWhile test reader).run tokens =
      (repeatWithin test reader tokens.length).run tokens := rfl
  induction bound generalizing fuel tokens with
  | zero =>
      obtain rfl := List.length_eq_zero_iff.1 (Nat.le_zero.1 few)
      cases fuel with
      | zero => rfl
      | succ fuel =>
          rw [run_repeatWithin_succ, ends]
          rfl
  | succ bound ih =>
      cases tokens with
      | nil => exact ih (Nat.zero_le bound) enough
      | cons token tokens =>
          cases fuel with
          | zero => cases enough
          | succ fuel =>
              rw [whole, List.length_cons, run_repeatWithin_succ, run_repeatWithin_succ]
              split
              · cases read : reader.run (token :: tokens) with
                | none => rfl
                | some found =>
                    obtain ⟨value, rest⟩ := found
                    -- The round took a token, so one unit of fuel less is enough for the rest.
                    have fewer := Nat.le_of_lt_succ (takes _ value rest read)
                    rw [Option.bind_some, Option.bind_some,
                      ih (fewer.trans (Nat.le_of_succ_le_succ few))
                        (fewer.trans (Nat.le_of_succ_le_succ enough)),
                      ih (fewer.trans (Nat.le_of_succ_le_succ few)) fewer]
              · rfl

/-- A repetition goes on after its first round. -/
theorem run_repeatWhile_of_round (ends : test [] = false)
    (takes : ∀ tokens value rest,
      reader.run tokens = some (value, rest) → rest.length < tokens.length)
    {tokens rest : List Token} {value : α} (goes : test tokens = true)
    (round : reader.run tokens = some (value, rest)) :
    (repeatWhile test reader).run tokens =
      ((repeatWhile test reader).run rest).map fun later => (value :: later.1, later.2) := by
  have fewer := takes tokens value rest round
  obtain ⟨fuel, length⟩ := Nat.exists_eq_add_one_of_ne_zero (Nat.ne_zero_of_lt fewer)
  have start : (repeatWhile test reader).run tokens =
      (repeatWithin test reader (fuel + 1)).run tokens := by
    rw [← length]
    rfl
  rw [start, run_repeatWithin_succ, if_pos goes, round, Option.bind_some,
    run_repeatWithin ends takes rest.length (Nat.le_refl _) (by omega)]

end Repeat

/-! ### Tokens of an attribute

What one attribute takes, and that it takes something. A documentation comment gives the tokens of an
attribute, so it is one round of the repetition. -/

/-- Punctuation is taken if the tokens start with it. -/
theorem run_punct (text : String) (tokens : List Token) :
    (punct text).run tokens =
      if startsPunct text tokens = true then some ((), tokens.drop text.length) else none := by
  have opened : (punct text).run tokens =
      (if startsPunct text tokens = true then set (tokens.drop text.length) else failure :
        TokenReader Unit).run tokens := by
    rw [punct]
    by_cases starts : startsPunct text tokens = true <;> simp [starts]
  rw [opened]
  split
  · rfl
  · rfl

/-- Brackets that are read to their end are one token. -/
theorem exists_of_run_inside {α : Type} {delimiter : Delimiter} {reader : TokenReader α}
    {tokens rest : List Token} {value : α}
    (read : (inside delimiter reader).run tokens = some (value, rest)) :
    ∃ content, tokens = .group delimiter content :: rest := by
  rw [inside, StateT.run_bind] at read
  obtain ⟨⟨content, left⟩, taken, finished⟩ := Option.bind_eq_some_iff.1 read
  have kept : left = rest := by
    rw [all] at finished
    split at finished
    · cases finished
      rfl
    · cases finished
  subst kept
  refine ⟨content, ?_⟩
  match tokens with
  | .group found inner :: later =>
      rw [group] at taken
      by_cases same : found = delimiter
      · simp [same] at taken
        simp [taken, same]
      · simp [same] at taken
  | .ident _ :: _ | .lifetime _ :: _ | .punct _ _ :: _ | .literal _ :: _ | [] => cases taken

/-- Attributes of a placement. -/
def attributesAt (inner : Inner) : Lexer.Placement → TokenReader (List Attribute)
  | .outer => outerAttributes inner
  | .inner => innerAttributes inner

/-- Where a token was taken, fewer tokens are left. -/
theorem length_lt_of_drop {tokens rest : List Token} {count : Nat} {token : Token}
    (dropped : tokens.drop count = token :: rest) : rest.length < tokens.length := by
  have lengths := congrArg List.length dropped
  rw [List.length_drop, List.length_cons] at lengths
  omega

/-- One attribute takes tokens. -/
theorem takes_outer (inner : Inner) (tokens : List Token) (value : Attribute) (rest : List Token)
    (read : (do punct "#"; inside .bracket (attributeContent inner) : TokenReader Attribute).run
      tokens = some (value, rest)) : rest.length < tokens.length := by
  rw [StateT.run_bind, run_punct] at read
  split at read
  · obtain ⟨content, dropped⟩ := exists_of_run_inside read
    exact length_lt_of_drop dropped
  · cases read

/-- One attribute of the other placement takes tokens. -/
theorem takes_inner (inner : Inner) (tokens : List Token) (value : Attribute) (rest : List Token)
    (read : (do punct "#"; punct "!"; inside .bracket (attributeContent inner) :
      TokenReader Attribute).run tokens = some (value, rest)) : rest.length < tokens.length := by
  rw [StateT.run_bind, run_punct] at read
  split at read
  · rw [Option.bind_eq_bind, Option.bind_some, StateT.run_bind, run_punct] at read
    split at read
    · obtain ⟨content, dropped⟩ := exists_of_run_inside read
      rw [List.drop_drop] at dropped
      exact length_lt_of_drop dropped
    · cases read
  · cases read

/-- The tokens of a documentation comment are read as its attribute, and reading goes on after them. -/
theorem run_attributesAt (inner : Inner) (placement : Lexer.Placement) (text : List Char)
    (more : List Token) :
    (attributesAt inner placement).run (Lexer.documentationTokens placement text ++ more) =
      ((attributesAt inner placement).run more).map fun found =>
        (documentationAttribute (String.ofList text) :: found.1, found.2) := by
  cases placement with
  | outer => exact run_repeatWhile_of_round rfl (takes_outer inner) rfl rfl
  | inner => exact run_repeatWhile_of_round rfl (takes_inner inner) rfl rfl

end SwaggerDocs.Source.Grammar
