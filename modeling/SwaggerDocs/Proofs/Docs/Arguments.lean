/-
Module: SwaggerDocs.Proofs.Docs.Arguments
Purpose: Each step of a rule for directive lines accepts exactly the written form of its part of the line:
  runs of word characters or of characters that are not blank, types with their formats, quoted
  descriptions, keys of responses, places of parameters, and texts up to the end of the line.
Main exports: lastRun_eq_some_iff, runThen_eq_some_iff, description?_eq_some_iff,
  typedDescription_iff, keyThen?_eq_some_iff, locationThen?_eq_some_iff, requirement?_eq_some_iff,
  lineText?_eq_some_iff
-/
import Mathlib.Data.String.Basic
import SwaggerDocs.Proofs.Docs.Writing

namespace SwaggerDocs.Directive

open Text

/-! ### Runs as arguments

An argument that is a run of characters stands either at the end of the line or before a blank. Both are
proved for any class of characters, and then put for words and for tokens. -/

section Runs

variable {p : Char → Bool} {cs rest : List Char} {text : String}

/-- A run that fills the line. -/
theorem lastRun_eq_some_iff :
    (match run? p cs with
      | some (run, []) => some (String.ofList run)
      | _ => none) = some text ↔
      text ≠ "" ∧ (∀ c ∈ text.toList, p c = true) ∧ cs = text.toList := by
  constructor
  · intro read
    split at read
    · rename_i run found
      cases read
      obtain ⟨rfl, nonempty, all, _⟩ := run?_eq_some_iff.1 found
      rw [String.toList_ofList, List.append_nil]
      exact ⟨fun empty => nonempty (String.ofList_eq.1 empty), all, rfl⟩
    · cases read
  · rintro ⟨nonempty, all, rfl⟩
    have found : run? p text.toList = some (text.toList, []) :=
      run?_eq_some_iff.2 ⟨(List.append_nil _).symm, mt String.toList_eq_nil_iff.1 nonempty, all,
        endsRun_nil p⟩
    simp [found]

/-- A run that a blank ends. -/
theorem runThen_eq_some_iff (blank : p ' ' = false) :
    (match run? p cs with
      | some (run, ' ' :: rest) => some (String.ofList run, rest)
      | _ => none) = some (text, rest) ↔
      text ≠ "" ∧ (∀ c ∈ text.toList, p c = true) ∧ cs = text.toList ++ ' ' :: rest := by
  constructor
  · intro read
    split at read
    · rename_i run more found
      cases read
      obtain ⟨rfl, nonempty, all, _⟩ := run?_eq_some_iff.1 found
      rw [String.toList_ofList]
      exact ⟨fun empty => nonempty (String.ofList_eq.1 empty), all, rfl⟩
    · cases read
  · rintro ⟨nonempty, all, rfl⟩
    have found : run? p (text.toList ++ ' ' :: rest) = some (text.toList, ' ' :: rest) :=
      run?_eq_some_iff.2 ⟨rfl, mt String.toList_eq_nil_iff.1 nonempty, all, endsRun_cons.2 blank⟩
    simp [found]

/-- A word is read up to a character that no word has. -/
theorem word?_eq_some_iff {run : List Char} :
    word? cs = some (run, rest) ↔
      IsWord (String.ofList run) ∧ EndsRun isWordChar rest ∧ cs = run ++ rest := by
  rw [word?, run?_eq_some_iff, IsWord, String.toList_ofList, ne_eq, ne_eq, String.ofList_eq]
  tauto

/-- A run without blanks is read up to the next blank. -/
theorem nonBlank?_eq_some_iff {run : List Char} :
    nonBlank? cs = some (run, rest) ↔
      IsToken (String.ofList run) ∧ EndsRun (fun c => !isBlank c) rest ∧ cs = run ++ rest := by
  rw [nonBlank?, run?_eq_some_iff, IsToken, String.toList_ofList, ne_eq, ne_eq, String.ofList_eq]
  simp only [Bool.not_eq_true']
  tauto

/-- A token, as readers test its characters. -/
theorem isToken_iff :
    IsToken text ↔ text ≠ "" ∧ ∀ c ∈ text.toList, (!isBlank c) = true := by
  simp only [IsToken, Bool.not_eq_true']

/-- The rest of a line is read as a word if it is one. -/
theorem lastWord?_eq_some_iff : lastWord? cs = some text ↔ IsWord text ∧ cs = text.toList := by
  rw [IsWord, and_assoc]
  exact lastRun_eq_some_iff

/-- The rest of a line is read as a token if it is one. -/
theorem lastNonBlank?_eq_some_iff :
    lastNonBlank? cs = some text ↔ IsToken text ∧ cs = text.toList := by
  rw [isToken_iff, and_assoc]
  exact lastRun_eq_some_iff

/-- A word that another argument follows ends at one blank. -/
theorem wordThen?_eq_some_iff :
    wordThen? cs = some (text, rest) ↔ IsWord text ∧ cs = text.toList ++ ' ' :: rest := by
  rw [IsWord, and_assoc]
  exact runThen_eq_some_iff (by decide +kernel)

/-- A token that another argument follows ends at one blank. -/
theorem nonBlankThen?_eq_some_iff :
    nonBlankThen? cs = some (text, rest) ↔ IsToken text ∧ cs = text.toList ++ ' ' :: rest := by
  rw [isToken_iff, and_assoc]
  exact runThen_eq_some_iff (by decide)

end Runs

/-! ### Other arguments

Each of these is accepted in its written form only. The rest of the line is kept general where another
argument follows. -/

section Arguments

variable {cs rest : List Char}

/-- The arguments are what follows the word of a directive and one blank. -/
theorem arguments?_eq_some_iff {word : String} :
    arguments? word cs = some rest ↔ cs = word.toList ++ ' ' :: rest := by
  simp only [arguments?, Option.bind_eq_some_iff, stripStart?_eq_some_iff, char?_eq_some_iff]
  constructor
  · rintro ⟨_, rfl, rfl⟩
    rfl
  · rintro rfl
    exact ⟨_, rfl, rfl⟩

/-- The end of a line is a description, which may be absent. -/
theorem description?_eq_some_iff {description : Option String} :
    description? cs = some description ↔
      (∀ text ∈ description, IsQuotable text) ∧ cs = spaced (describe description) := by
  constructor
  · intro read
    rw [description?.eq_def] at read
    split at read
    · cases read
      exact ⟨by simp, rfl⟩
    · rename_i more
      split at read
      · rename_i text found
        cases read
        obtain ⟨rfl, nonempty, all, _⟩ := run?_eq_some_iff.1 found
        rw [spaced_describe_some, String.toList_ofList]
        refine ⟨?_, rfl⟩
        rintro _ ⟨⟩
        rw [IsQuotable, String.toList_ofList]
        refine ⟨fun empty => nonempty (String.ofList_eq.1 empty), fun member => ?_⟩
        exact absurd (all '"' member) (by decide)
      · cases read
    · cases read
  · rintro ⟨quotable, rfl⟩
    cases description with
    | none => rfl
    | some text =>
        obtain ⟨nonempty, unquoted⟩ := quotable text rfl
        have found : run? (· != '"') (text.toList ++ ['"']) = some (text.toList, ['"']) := by
          refine run?_eq_some_iff.2 ⟨rfl, mt String.toList_eq_nil_iff.1 nonempty, ?_,
            endsRun_cons.2 (by decide)⟩
          intro c member
          have other : c ≠ '"' := fun same => unquoted (same ▸ member)
          simpa using other
        rw [spaced_describe_some, description?, found]
        simp

/-- A type is followed by a format only after a slash. -/
theorem fits_of_typed? {typed : TypedAs} (read : typed? cs = some (typed, rest)) :
    typed.Fits ∧ cs = typed.text.toList ++ rest := by
  rw [typed?] at read
  split at read
  · cases read
  · rename_i name more found
    obtain ⟨word, _, rfl⟩ := word?_eq_some_iff.1 found
    obtain ⟨⟨format, left⟩, ran, pair⟩ := Option.map_eq_some_iff.1 read
    cases pair
    obtain ⟨token, _, rfl⟩ := nonBlank?_eq_some_iff.1 ran
    refine ⟨⟨word, by simpa using token⟩, ?_⟩
    simp [TypedAs.text]
  · rename_i name more _ found
    cases read
    obtain ⟨word, _, rfl⟩ := word?_eq_some_iff.1 found
    exact ⟨⟨word, by simp⟩, by simp [TypedAs.text]⟩

/-- A type that can be written is read up to the words that follow. -/
theorem typed?_of_fits {typed : TypedAs} (fits : typed.Fits) (words : List String) :
    typed? (typed.text.toList ++ spaced words) = some (typed, spaced words) := by
  obtain ⟨name, format⟩ := typed
  obtain ⟨word, token⟩ := fits
  cases format with
  | none =>
      have found : word? (name.toList ++ spaced words) = some (name.toList, spaced words) :=
        word?_eq_some_iff.2 ⟨by simpa using word, endsRun_spaced (by decide +kernel) words, rfl⟩
      rw [TypedAs.text, typed?, found]
      cases words <;> simp
  | some format =>
      have found : word? (name.toList ++ '/' :: (format.toList ++ spaced words)) =
          some (name.toList, '/' :: (format.toList ++ spaced words)) :=
        word?_eq_some_iff.2
          ⟨by simpa using word, endsRun_cons.2 (by decide +kernel), rfl⟩
      have ran : nonBlank? (format.toList ++ spaced words) = some (format.toList, spaced words) :=
        nonBlank?_eq_some_iff.2
          ⟨by simpa using token format rfl, endsRun_spaced (by decide) words, rfl⟩
      have chars : (name ++ "/" ++ format).toList ++ spaced words =
          name.toList ++ '/' :: (format.toList ++ spaced words) := by simp
      rw [TypedAs.text, chars, typed?, found]
      simp [ran]

/-- A type and a description fill the end of a line. -/
theorem typedDescription_iff {typed : TypedAs} {description : Option String} :
    (∃ rest, typed? cs = some (typed, rest) ∧ description? rest = some description) ↔
      (typed.Fits ∧ ∀ text ∈ description, IsQuotable text) ∧
        cs = typed.text.toList ++ spaced (describe description) := by
  constructor
  · rintro ⟨rest, read, described⟩
    obtain ⟨fits, rfl⟩ := fits_of_typed? read
    obtain ⟨quotable, rfl⟩ := description?_eq_some_iff.1 described
    exact ⟨⟨fits, quotable⟩, rfl⟩
  · rintro ⟨⟨fits, quotable⟩, rfl⟩
    exact ⟨_, typed?_of_fits fits _, description?_eq_some_iff.2 ⟨quotable, rfl⟩⟩

/-- A key is written as `default` or as the three digits of its status. -/
theorem key?_eq_some_iff {key : ResponseKey} :
    key? cs = some (key, rest) ↔ key.Valid ∧ cs = key.display.toList ++ rest := by
  constructor
  · intro read
    rw [key?.eq_def] at read
    split at read
    · rename_i more found
      cases read
      exact ⟨trivial, stripStart?_eq_some_iff.1 found⟩
    · split at read
      · rename_i a b c more
        split at read
        · rename_i digits
          simp only [Bool.and_eq_true] at digits
          obtain ⟨other, parsed, pair⟩ := Option.map_eq_some_iff.1 read
          cases pair
          obtain ⟨valid, written⟩ :=
            (ResponseKey.parse?_digits_iff digits.1.1 digits.1.2 digits.2).1 parsed
          exact ⟨valid, by rw [written]; rfl⟩
        · cases read
      · cases read
  · rintro ⟨valid, rfl⟩
    cases key with
    | default =>
        have found : stripStart? "default".toList (ResponseKey.default.display.toList ++ rest) =
            some rest := stripStart?_eq_some_iff.2 rfl
        rw [key?.eq_def, found]
    | status code =>
        obtain ⟨a, b, c, ha, hb, hc, written⟩ := ResponseKey.exists_digits_of_status valid
        have parsed : ResponseKey.parse? (String.ofList [a, b, c]) = some (.status code) :=
          (ResponseKey.parse?_digits_iff ha hb hc).2 ⟨valid, written⟩
        -- A digit does not start the default key.
        have other : stripStart? "default".toList ([a, b, c] ++ rest) = none := by
          have notLetter : 'd' ≠ a := by
            rintro rfl
            cases ha
          exact if_neg notLetter
        have digits : (a.isDigit && b.isDigit && c.isDigit) = true := by rw [ha, hb, hc]; rfl
        rw [written, key?.eq_def, other]
        show (if (a.isDigit && b.isDigit && c.isDigit) = true then
          (ResponseKey.parse? (String.ofList [a, b, c])).map (·, rest) else none) = _
        rw [if_pos digits, parsed]
        rfl

/-- A key that another argument follows ends at one blank. -/
theorem keyThen?_eq_some_iff {key : ResponseKey} :
    keyThen? cs = some (key, rest) ↔ key.Valid ∧ cs = key.display.toList ++ ' ' :: rest := by
  rw [keyThen?, Option.bind_eq_some_iff]
  constructor
  · rintro ⟨⟨other, left⟩, read, ended⟩
    obtain ⟨more, blank, pair⟩ := Option.map_eq_some_iff.1 ended
    cases pair
    rw [char?_eq_some_iff.1 blank] at read
    exact key?_eq_some_iff.1 read
  · intro written
    refine ⟨(key, ' ' :: rest), key?_eq_some_iff.2 written, ?_⟩
    simp [char?]

/-- A place of a parameter is written by its name, and is not the body. -/
theorem locationThen?_eq_some_iff {location : ParameterLocation} :
    locationThen? cs = some (location, rest) ↔
      location ≠ .body ∧ cs = location.name.toList ++ ' ' :: rest := by
  constructor
  · intro read
    rw [locationThen?] at read
    split at read
    · rename_i more found
      cases read
      exact ⟨by decide, arguments?_eq_some_iff.1 found⟩
    · obtain ⟨more, found, pair⟩ := Option.map_eq_some_iff.1 read
      cases pair
      exact ⟨by decide, arguments?_eq_some_iff.1 found⟩
  · rintro ⟨sent, rfl⟩
    cases location with
    | path =>
        have found : arguments? "path" (ParameterLocation.path.name.toList ++ ' ' :: rest) =
            some rest := arguments?_eq_some_iff.2 rfl
        rw [locationThen?, found]
    | query =>
        have found : arguments? "query" (ParameterLocation.query.name.toList ++ ' ' :: rest) =
            some rest := arguments?_eq_some_iff.2 rfl
        have other : arguments? "path" (ParameterLocation.query.name.toList ++ ' ' :: rest) = none :=
          rfl
        rw [locationThen?, other, found]
        rfl
    | body => exact absurd rfl sent

/-- The end of a request body: its flag, which may be left out if it is set, and a description. -/
theorem requirement?_eq_some_iff {required : Bool} {description : Option String} :
    requirement? cs = some (required, description) ↔
      (∀ text ∈ description, IsQuotable text) ∧
        ∃ flag, Flags required flag ∧ cs = spaced (flag ++ describe description) := by
  constructor
  · intro read
    rw [requirement?] at read
    split at read
    · rename_i more found
      obtain ⟨other, described, pair⟩ := Option.map_eq_some_iff.1 read
      cases pair
      obtain ⟨quotable, rfl⟩ := description?_eq_some_iff.1 described
      exact ⟨quotable, ["true"], Or.inl rfl, stripStart?_eq_some_iff.1 found⟩
    · rename_i more _ found
      obtain ⟨other, described, pair⟩ := Option.map_eq_some_iff.1 read
      cases pair
      obtain ⟨quotable, rfl⟩ := description?_eq_some_iff.1 described
      exact ⟨quotable, ["false"], rfl, stripStart?_eq_some_iff.1 found⟩
    · obtain ⟨other, described, pair⟩ := Option.map_eq_some_iff.1 read
      cases pair
      obtain ⟨quotable, rfl⟩ := description?_eq_some_iff.1 described
      exact ⟨quotable, [], Or.inr rfl, rfl⟩
  · rintro ⟨quotable, flag, flagged, rfl⟩
    have described : description? (spaced (describe description)) = some description :=
      description?_eq_some_iff.2 ⟨quotable, rfl⟩
    have withTrue : stripStart? " true".toList (spaced (["true"] ++ describe description)) =
        some (spaced (describe description)) := stripStart?_eq_some_iff.2 rfl
    have withFalse : stripStart? " false".toList (spaced (["false"] ++ describe description)) =
        some (spaced (describe description)) := stripStart?_eq_some_iff.2 rfl
    have notTrue : stripStart? " true".toList (spaced (["false"] ++ describe description)) = none :=
      rfl
    -- A description starts with its quote, so it is not taken for a flag.
    have bare (word : List Char) (c : Char) (letter : c ≠ '"') :
        stripStart? (' ' :: c :: word) (spaced (describe description)) = none := by
      cases description with
      | none => rfl
      | some text => simp [spaced_describe_some, stripStart?, letter]
    cases required with
    | false =>
        rw [show flag = ["false"] from flagged, requirement?, notTrue, withFalse]
        simp [described]
    | true =>
        rcases flagged with rfl | rfl
        · rw [requirement?, withTrue]
          simp [described]
        · have plainTrue : stripStart? " true".toList (spaced (describe description)) = none :=
            bare _ 't' (by decide)
          have plainFalse : stripStart? " false".toList (spaced (describe description)) = none :=
            bare _ 'f' (by decide)
          rw [List.nil_append, requirement?, plainTrue, plainFalse]
          simp [described]

/-- A text up to the end of the line has no line feed. -/
theorem lineText?_eq_some_iff {text : String} :
    lineText? cs = some text ↔ '\n' ∉ text.toList ∧ cs = text.toList := by
  rw [lineText?]
  by_cases broken : '\n' ∈ cs
  · simp only [List.contains_iff_mem, broken, if_true]
    constructor
    · intro read
      cases read
    · rintro ⟨whole, rfl⟩
      exact absurd broken whole
  · simp only [List.contains_iff_mem, broken, if_false, Option.some.injEq, String.ofList_eq]
    constructor
    · rintro rfl
      exact ⟨broken, rfl⟩
    · exact And.right

end Arguments

end SwaggerDocs.Directive
