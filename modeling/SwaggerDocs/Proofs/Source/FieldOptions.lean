/-
Module: SwaggerDocs.Proofs.Source.FieldOptions
Purpose: The options of fields as they are written, and what is read of them. An option is read whatever
  stands beside it: one that documents do not need is read over as a whole, and it does not matter over
  how many attributes the options are spread.
Main exports: FieldOptions.OptionForm, FieldOptions.States, FieldOptions.ofAttributes_of_states,
  FieldOptions.options_read_independently
-/
import Mathlib.Data.List.Basic
import Mathlib.Data.List.Induction
import SwaggerDocs.Source.File

namespace SwaggerDocs.Source.FieldOptions

open Grammar
open Token (weightAll)

/-! ### Written options

Options as they can be written: a word, a word with a literal, or a word with options in parentheses.
The relation with tokens leaves open how punctuation stands and whether a comma follows the last option.
-/

/-- A literal as the value of an option. The truth values are words, and a number may have a sign. -/
inductive OptionValue where
  | plain (literal : Literal)
  | truth (value : Bool)
  | negativeInteger (spelling : String)
  | negativeFloat (spelling : String)
deriving Repr, DecidableEq

/-- An option: a word alone, a word with a literal as its value, or a word with options in
    parentheses. -/
inductive OptionForm where
  | word (name : String)
  | valued (name : String) (value : OptionValue)
  | nested (name : String) (options : List OptionForm)
deriving Repr

/-- The word that an option begins with. -/
def OptionForm.name : OptionForm → String
  | .word name | .valued name _ | .nested name _ => name

/-- The tokens of a literal. -/
inductive OptionValue.Writes : OptionValue → List Token → Prop
  | plain (literal : Literal) : Writes (.plain literal) [.literal literal]
  | yes : Writes (.truth true) [.ident "true"]
  | no : Writes (.truth false) [.ident "false"]
  | integer (joint : Bool) (spelling : String) :
      Writes (.negativeInteger spelling) [.punct '-' joint, .literal (.integer spelling)]
  | float (joint : Bool) (spelling : String) :
      Writes (.negativeFloat spelling) [.punct '-' joint, .literal (.float spelling)]

mutual

/-- The tokens after the word of an option. Parentheses hold at least one option. -/
inductive OptionForm.WritesAfter : OptionForm → List Token → Prop
  | word (name : String) : OptionForm.WritesAfter (.word name) []
  | valued (name : String) (joint : Bool) {value : OptionValue} {tokens : List Token}
      (written : value.Writes tokens) :
      OptionForm.WritesAfter (.valued name value) (.punct '=' joint :: tokens)
  | nested (name : String) {options : List OptionForm} {tokens : List Token}
      (nonempty : options ≠ []) (written : WritesAll options tokens) :
      OptionForm.WritesAfter (.nested name options) [.group .parenthesis tokens]

/-- The tokens of a list of options. A comma stands between two of them, and may follow the last. -/
inductive WritesAll : List OptionForm → List Token → Prop
  | none : WritesAll [] []
  | last {option : OptionForm} {after : List Token} (written : option.WritesAfter after) :
      WritesAll [option] (.ident option.name :: after)
  | next (joint : Bool) {option : OptionForm} {options : List OptionForm}
      {after later : List Token} (written : option.WritesAfter after)
      (more : WritesAll options later) :
      WritesAll (option :: options) (.ident option.name :: (after ++ .punct ',' joint :: later))

end

/-- Attributes state options: each of those for serialization has a list of its own, which may be
    empty, and the others state none. -/
inductive States : List Attribute → List OptionForm → Prop
  | none : States [] []
  | options {options later : List OptionForm} {tokens : List Token} {attributes : List Attribute}
      (written : WritesAll options tokens) (more : States attributes later) :
      States (⟨some "serde", .arguments tokens⟩ :: attributes) (options ++ later)
  | other {options : List OptionForm} {a : Attribute} {attributes : List Attribute}
      (named : a.name ≠ some "serde") (more : States attributes options) :
      States (a :: attributes) options

/-! ### What options say

An option is one of three remarks, or several new names, or nothing. Well-formed are the options that do
not misuse a word that says something. -/

/-- What an option can say on how its field is written. -/
inductive Remark where
  | rename (text : String)
  | skip
  | flatten
deriving Repr, DecidableEq

/-- The options with one more remark. -/
def note (options : FieldOptions) : Remark → FieldOptions
  | .rename text => { options with rename := some text }
  | .skip => { options with skip := true }
  | .flatten => { options with flatten := true }

/-- The name for writing that an option gives in the parentheses of a new name. -/
def OptionForm.sideNames : OptionForm → List String
  | .valued "serialize" (.plain (.string text)) => [text]
  | _ => []

/-- The new names that an option gives for writing. -/
def OptionForm.names : OptionForm → List String
  | .valued "rename" (.plain (.string text)) => [text]
  | .nested "rename" options => options.flatMap OptionForm.sideNames
  | _ => []

/-- What an option says. One of any other word says nothing, whatever stands in it. -/
def OptionForm.remarks : OptionForm → List Remark
  | .word "flatten" => [.flatten]
  | .word "skip" => [.skip]
  | .word "skip_serializing" => [.skip]
  | option => option.names.map .rename

/-- The words that say something alone. -/
def markWords : List String := ["flatten", "skip", "skip_serializing"]

/-- An option that says something has the value that it needs. Beside the name for writing, the
    parentheses of a new name may hold any options. -/
def OptionForm.WellFormed : OptionForm → Prop
  | .word name => name ≠ "rename"
  | .valued name value =>
      name ∉ markWords ∧ (name = "rename" → ∃ text, value = .plain (.string text))
  | .nested name options =>
      name ∉ markWords ∧ (name = "rename" → ∀ option ∈ options, option.name = "serialize" →
        ∃ text, option = .valued "serialize" (.plain (.string text)))

/-! ### Reading over a value

Reading a list of options needs of an action only that it takes each option exactly, up to the comma or
the end. So this is a property of the action on one option. -/

/-- What stands after an option: nothing, or a comma. -/
inductive EndsOption : List Token → Prop
  | nothing : EndsOption []
  | comma (joint : Bool) (more : List Token) : EndsOption (.punct ',' joint :: more)

/-- A reader of expressions takes a literal before a comma, and nothing more. -/
def ReadsLiterals (inner : Inner) : Prop :=
  ∀ {value : OptionValue} {tokens rest : List Token}, value.Writes tokens → EndsOption rest →
    (inner.expression true).run (tokens ++ rest) = some ((), rest)

/-- A literal is an expression of one operand without trailers, and no operator begins with a comma. -/
theorem readsLiterals_within (depth : Nat) : ReadsLiterals (.within (depth + 1)) := by
  intro value tokens rest written ends
  cases written <;> cases ends <;> rfl

theorem weightAll_ident (name : String) (tokens : List Token) :
    weightAll (.ident name :: tokens) = 1 + weightAll tokens := rfl

theorem weightAll_append (tokens more : List Token) :
    weightAll (tokens ++ more) = weightAll tokens + weightAll more := by
  induction tokens with
  | nil => simp [weightAll]
  | cons token tokens ih =>
      rw [List.cons_append, weightAll, weightAll, ih]
      omega

/-- The path of an option is its word alone: what stands after it does not go on with the path. -/
theorem optionPath?_written {option : OptionForm} {after rest : List Token}
    (written : option.WritesAfter after) (ends : EndsOption rest) :
    optionPath? (.ident option.name :: (after ++ rest)) = some ([option.name], after ++ rest) := by
  cases written with
  | word => cases ends <;> rfl
  | valued | nested => rfl

section Lists

variable {σ : Type} {action : OptionAction σ} {effect : σ → OptionForm → σ} {bound : Nat}

/-- An action takes exactly what stands after the word of an option, if its weight is below a bound. -/
def Takes (action : OptionAction σ) (effect : σ → OptionForm → σ) (bound : Nat)
    (option : OptionForm) : Prop :=
  ∀ (after rest : List Token) (state : σ), option.WritesAfter after → weightAll after < bound →
    EndsOption rest → action [option.name] (after ++ rest) state = (effect state option, some rest)

theorem length_le_of_written {options : List OptionForm} {tokens : List Token}
    (written : WritesAll options tokens) : options.length ≤ tokens.length := by
  induction options generalizing tokens with
  | nil => exact Nat.zero_le _
  | cons option options ih =>
      cases written with
      | last => simp
      | next joint first more =>
          have fewer := ih more
          simp only [List.length_cons, List.length_append]
          omega

/-- One round: after an option that was taken, reading goes on if a comma follows it and more tokens
    follow the comma. -/
theorem readWithin_taken {option : OptionForm} {after rest : List Token} {state later : σ}
    (written : option.WritesAfter after) (ends : EndsOption rest)
    (taken : action [option.name] (after ++ rest) state = (later, some rest)) (fuel : Nat) :
    readWithin action (fuel + 1) (.ident option.name :: (after ++ rest)) state =
      match afterOption? rest with
      | none => (later, false)
      | some [] => (later, true)
      | some (token :: rest) => readWithin action fuel (token :: rest) later := by
  rw [readWithin, optionPath?_written written ends]
  rcases next : afterOption? rest with _ | _ | ⟨token, more⟩
  all_goals simp only [taken, next]

/-- An action that takes every option of a list reads the list to its end. -/
theorem readWithin_written {options : List OptionForm} {tokens : List Token} {fuel : Nat}
    (takes : ∀ option ∈ options, Takes action effect bound option)
    (written : WritesAll options tokens) (nonempty : options ≠ [])
    (light : weightAll tokens ≤ bound) (enough : options.length ≤ fuel) (state : σ) :
    readWithin action fuel tokens state = (options.foldl effect state, true) := by
  induction options generalizing tokens fuel state with
  | nil => exact absurd rfl nonempty
  | cons option options ih =>
      obtain ⟨fuel, rfl⟩ := Nat.exists_eq_add_one_of_ne_zero (Nat.ne_zero_of_lt enough)
      have first := takes option List.mem_cons_self
      cases written with
      | @last _ after written =>
          rw [weightAll_ident] at light
          have round := readWithin_taken written .nothing
            (first after [] state written (by omega) .nothing) fuel
          rw [List.append_nil] at round
          exact round
      | @next joint _ _ after later written more =>
          rw [weightAll_ident, weightAll_append, weightAll] at light
          rw [readWithin_taken written (.comma joint later)
            (first after _ state written (by omega) (.comma joint later)), List.foldl_cons]
          -- The comma may stand after the last option.
          cases options with
          | nil =>
              cases more
              rfl
          | cons second options =>
              have others := ih (fun o member => takes o (List.mem_cons_of_mem _ member)) more
                (by simp) (by omega) (Nat.le_of_succ_le_succ enough) (effect state option)
              cases more <;> exact others

/-- The same for the reader with its own fuel. -/
theorem read_written {options : List OptionForm} {tokens : List Token}
    (takes : ∀ option ∈ options, Takes action effect bound option)
    (written : WritesAll options tokens) (nonempty : options ≠ [])
    (light : weightAll tokens ≤ bound) (state : σ) :
    read action tokens state = (options.foldl effect state, true) :=
  readWithin_written takes written nonempty light (Nat.le_succ_of_le (length_le_of_written written))
    state

end Lists

/-! ### Taking options

The actions for both levels of options take each option exactly. What documents do not need is read
over, by induction on the fuel that bounds the parentheses in it. -/

/-- In the parentheses of a new name any other word is read over. -/
theorem takeName_of_ne {inner : Inner} {name : String} (other : name ≠ "serialize")
    (tokens : List Token) (options : FieldOptions) :
    takeName inner [name] tokens options = (options, skipRest? inner tokens) := by
  rw [takeName]
  rintro ⟨⟩
  exact other rfl

/-- An option of another word gives no name for writing. -/
theorem sideNames_of_ne {option : OptionForm} (other : option.name ≠ "serialize") :
    option.sideNames = [] := by
  rw [OptionForm.sideNames.eq_def]
  split
  · exact absurd rfl other
  · rfl

/-- An option of another word is read over. -/
theorem takeOption_of_notMem {inner : Inner} {name : String} (other : name ∉ "rename" :: markWords)
    (tokens : List Token) (options : FieldOptions) :
    takeOption inner [name] tokens options = (options, skipRest? inner tokens) := by
  rw [takeOption]
  all_goals
    rintro ⟨⟩
    exact other (by decide)

/-- An option of another word says nothing. -/
theorem remarks_of_notMem {option : OptionForm} (other : option.name ∉ "rename" :: markWords) :
    option.remarks = [] := by
  rw [OptionForm.remarks.eq_def]
  split
  · exact absurd (by decide) other
  · exact absurd (by decide) other
  · exact absurd (by decide) other
  · rw [OptionForm.names.eq_def]
    split
    · exact absurd List.mem_cons_self other
    · exact absurd List.mem_cons_self other
    · rfl

section Values

variable {inner : Inner} (reads : ReadsLiterals inner)

include reads

/-- The value of an option is read over to its end. The fuel has to bound the parentheses in it, so
    that of the options in parentheses is one less. -/
theorem takes_skipValue? (fuel : Nat) (option : OptionForm) :
    Takes (fun _ tokens (_ : Unit) => ((), skipValue? inner fuel tokens)) (fun _ _ => ()) fuel
      option := by
  induction fuel generalizing option with
  | zero =>
      intro after rest state written light
      cases light
  | succ fuel ih =>
      intro after rest state written light ends
      refine congrArg _ ?_
      cases written with
      | word => cases ends <;> rfl
      | valued name joint literal =>
          show ((inner.expression true).run (_ ++ rest)).map (·.2) = some rest
          rw [reads literal ends]
          rfl
      | nested name nonempty written =>
          rw [weightAll, Token.weight, weightAll] at light
          have content := read_written (fun o _ => ih o) written nonempty (by omega) ()
          rw [List.cons_append, skipValue?, content]
          rfl

/-- The rest of an option is read over up to its end. -/
theorem skipRest?_written {option : OptionForm} {after rest : List Token}
    (written : option.WritesAfter after) (ends : EndsOption rest) :
    skipRest? inner (after ++ rest) = some rest := by
  have light : weightAll after < weightAll (after ++ rest) + 1 := by
    rw [weightAll_append]
    omega
  exact congrArg Prod.snd (takes_skipValue? reads _ option after rest () written light ends)

/-- Beside the name for writing, the parentheses of a new name are read over. -/
theorem takes_takeName {option : OptionForm} (bound : Nat)
    (formed : option.name = "serialize" →
      ∃ text, option = .valued "serialize" (.plain (.string text))) :
    Takes (takeName inner) (fun options option => (option.sideNames.map .rename).foldl note options)
      bound option := by
  intro after rest options written _ ends
  by_cases side : option.name = "serialize"
  · obtain ⟨text, rfl⟩ := formed side
    cases written with
    | valued _ joint literal =>
        cases literal
        rfl
  · rw [takeName_of_ne side, skipRest?_written reads written ends]
    dsimp only
    rw [sideNames_of_ne side]
    rfl

/-- A well-formed option is taken as what it says, and nothing after it is taken with it. -/
theorem takes_takeOption {option : OptionForm} (bound : Nat) (formed : option.WellFormed) :
    Takes (takeOption inner) (fun options option => option.remarks.foldl note options) bound
      option := by
  intro after rest options written _ ends
  by_cases known : option.name ∈ "rename" :: markWords
  · -- A word that says something has to have the form that goes with it.
    cases option with
    | word name =>
        obtain rfl | rfl | rfl : name = "flatten" ∨ name = "skip" ∨ name = "skip_serializing" := by
          simpa [OptionForm.name, markWords, show name ≠ "rename" from formed] using known
        all_goals
          cases written
          rfl
    | valued name value =>
        obtain rfl : name = "rename" := (List.mem_cons.1 known).resolve_right formed.1
        obtain ⟨text, rfl⟩ := formed.2 rfl
        cases written with
        | valued _ joint literal =>
            cases literal
            rfl
    | nested name inside =>
        obtain rfl : name = "rename" := (List.mem_cons.1 known).resolve_right formed.1
        cases written with
        | nested _ nonempty written =>
            have content := read_written
              (fun o member => takes_takeName reads _ (formed.2 rfl o member)) written nonempty
              (Nat.le_refl _) options
            rw [← List.foldl_flatMap, ← List.map_flatMap] at content
            show takeRename inner (.group .parenthesis _ :: rest) options = _
            rw [takeRename, content]
            rfl
  · rw [takeOption_of_notMem known, skipRest?_written reads written ends]
    dsimp only
    rw [remarks_of_notMem known]
    rfl

/-- An attribute adds what the options in its list say. -/
theorem addAttribute_written {options : List OptionForm} {tokens : List Token}
    (written : WritesAll options tokens) (formed : ∀ option ∈ options, option.WellFormed)
    (start : FieldOptions) :
    addAttribute inner start ⟨some "serde", .arguments tokens⟩ =
      (options.flatMap OptionForm.remarks).foldl note start := by
  by_cases nonempty : options = []
  · subst nonempty
    cases written
    rfl
  · have content := read_written (fun o member => takes_takeOption reads _ (formed o member))
      written nonempty (Nat.le_refl _) start
    rw [← List.foldl_flatMap] at content
    cases written with
    | none => exact absurd rfl nonempty
    | last | next => exact congrArg Prod.fst content

/-- The options of attributes are what the options in them say, one after another. -/
theorem foldl_addAttribute {attributes : List Attribute} {options : List OptionForm}
    (states : States attributes options) (formed : ∀ option ∈ options, option.WellFormed)
    (start : FieldOptions) :
    attributes.foldl (addAttribute inner) start =
      (options.flatMap OptionForm.remarks).foldl note start := by
  induction states generalizing start with
  | none => rfl
  | options written more ih =>
      rw [List.forall_mem_append] at formed
      rw [List.foldl_cons, addAttribute_written reads written formed.1, ih formed.2,
        List.flatMap_append, List.foldl_append]
  | other named more ih =>
      rw [List.foldl_cons, ih formed, addAttribute, if_neg named]

end Values

/-- The options of attributes start from none. -/
theorem ofAttributes_of_states (depth : Nat) {attributes : List Attribute}
    {options : List OptionForm} (states : States attributes options)
    (formed : ∀ option ∈ options, option.WellFormed) :
    ofAttributes (.within (depth + 1)) attributes =
      (options.flatMap OptionForm.remarks).foldl note {} :=
  foldl_addAttribute (readsLiterals_within depth) states formed {}

/-! ### What is read

The options of a field are a fold over what its options say. Of the remarks, new names replace each
other and the two marks add up. -/

/-- The new name that a remark gives. -/
def Remark.name? : Remark → Option String
  | .rename text => some text
  | _ => none

/-- Remarks add up; of several new names the last one stays. -/
theorem foldl_note (remarks : List Remark) :
    remarks.foldl note {} =
      { rename := (remarks.filterMap Remark.name?).getLast?
        skip := decide (.skip ∈ remarks)
        flatten := decide (.flatten ∈ remarks) } := by
  induction remarks using List.reverseRecOn with
  | nil => rfl
  | append_singleton remarks remark ih =>
      rw [List.foldl_concat, ih]
      cases remark <;> simp [note, Remark.name?]

/-- One option alone says that a field is flattened. -/
theorem flatten_mem_remarks {option : OptionForm} :
    .flatten ∈ option.remarks ↔ option = .word "flatten" := by
  rw [OptionForm.remarks.eq_def]
  split <;> simp_all

/-- Two options say that a field is left out. -/
theorem skip_mem_remarks {option : OptionForm} :
    .skip ∈ option.remarks ↔ option = .word "skip" ∨ option = .word "skip_serializing" := by
  rw [OptionForm.remarks.eq_def]
  split <;> simp_all

/-- The new names in what an option says are those that it gives. -/
theorem filterMap_name?_remarks (option : OptionForm) :
    option.remarks.filterMap Remark.name? = option.names := by
  rw [OptionForm.remarks.eq_def]
  split
  · rfl
  · rfl
  · rfl
  · rw [List.filterMap_map]
    exact List.filterMap_some

/-- Options are read whatever stands beside them. A field is written in the place of its own fields if
    one of its options says so, and not at all if one says that; the last of its new names counts. All
    other options may be added, left out or changed, to any depth, and the options may be spread over
    the attributes in any way: options that say the same are read alike. The readers may nest to any
    depth, but have to read at least the parts of an option. -/
theorem options_read_independently (depth : Nat) {attributes : List Attribute}
    {options : List OptionForm} (states : States attributes options)
    (formed : ∀ option ∈ options, option.WellFormed) :
    ((ofAttributes (.within (depth + 1)) attributes).flatten = true ↔ .word "flatten" ∈ options) ∧
    ((ofAttributes (.within (depth + 1)) attributes).skip = true ↔
      .word "skip" ∈ options ∨ .word "skip_serializing" ∈ options) ∧
    (ofAttributes (.within (depth + 1)) attributes).rename =
      (options.flatMap OptionForm.names).getLast? ∧
    ∀ (otherDepth : Nat) (others : List Attribute) (otherOptions : List OptionForm),
      States others otherOptions → (∀ option ∈ otherOptions, option.WellFormed) →
      otherOptions.flatMap OptionForm.remarks = options.flatMap OptionForm.remarks →
      ofAttributes (.within (otherDepth + 1)) others =
        ofAttributes (.within (depth + 1)) attributes := by
  rw [ofAttributes_of_states depth states formed, foldl_note]
  refine ⟨?_, ?_, ?_, ?_⟩
  · rw [decide_eq_true_iff, List.mem_flatMap]
    simp only [flatten_mem_remarks, exists_eq_right]
  · rw [decide_eq_true_iff, List.mem_flatMap]
    simp only [skip_mem_remarks, and_or_left, exists_or, exists_eq_right]
  · rw [List.filterMap_flatMap]
    simp only [filterMap_name?_remarks]
  · intro otherDepth others otherOptions otherStates otherFormed same
    rw [ofAttributes_of_states otherDepth otherStates otherFormed, same, foldl_note]

/-- Options that are read among others, in two attributes with a third one between them. -/
def sampleAttributes : List Attribute :=
  [⟨some "serde", .arguments [.ident "default", .punct ',' false, .ident "with", .punct '=' false,
      .literal (.string "text")]⟩,
    ⟨some "doc", .text " The output."⟩,
    ⟨some "serde", .arguments [.ident "rename", .group .parenthesis [.ident "serialize",
      .punct '=' false, .literal (.string "out"), .punct ',' false, .ident "deserialize",
      .punct '=' false, .literal (.string "in")], .punct ',' false, .ident "bound",
      .group .parenthesis [.ident "skip", .group .parenthesis [.ident "depth", .punct '=' true,
      .punct '-' false, .literal (.integer "1")]], .punct ',' false, .ident "flatten",
      .punct ',' false]⟩]

def sampleOptions : List OptionForm :=
  [.word "default", .valued "with" (.plain (.string "text")),
    .nested "rename" [.valued "serialize" (.plain (.string "out")),
      .valued "deserialize" (.plain (.string "in"))],
    .nested "bound" [.nested "skip" [.valued "depth" (.negativeInteger "1")]],
    .word "flatten"]

theorem states_sample : States sampleAttributes sampleOptions := by
  have first := WritesAll.next false (.word "default")
    (.last (.valued "with" false (.plain (.string "text"))))
  have names := WritesAll.next false (.valued "serialize" false (.plain (.string "out")))
    (.last (.valued "deserialize" false (.plain (.string "in"))))
  have depth := WritesAll.last (.valued "depth" true (.integer false "1"))
  have bound := WritesAll.last (.nested "skip" (by simp) depth)
  have second := WritesAll.next false (.nested "rename" (by simp) names)
    (.next false (.nested "bound" (by simp) bound) (.next false (.word "flatten") .none))
  exact .options first (.other (by decide) (.options second .none))

theorem wellFormed_sample : ∀ option ∈ sampleOptions, option.WellFormed := by
  simp [sampleOptions, OptionForm.WellFormed, OptionForm.name, markWords]

theorem options_read_independently_sample :
    States sampleAttributes sampleOptions ∧
    (∀ option ∈ sampleOptions, option.WellFormed) ∧
    (ofAttributes (.within 1) sampleAttributes).flatten = true ∧
    (ofAttributes (.within 1) sampleAttributes).skip = false ∧
    (ofAttributes (.within 1) sampleAttributes).rename = some "out" := by
  obtain ⟨flattened, skipped, renamed, -⟩ :=
    options_read_independently 0 states_sample wellFormed_sample
  refine ⟨states_sample, wellFormed_sample, flattened.2 ?_, ?_, renamed.trans rfl⟩
  · simp [sampleOptions]
  · rw [← Bool.not_eq_true, skipped]
    simp [sampleOptions]

/-- Empty parentheses hold no options. The attribute is read up to them, and no further. -/
example : ofAttributes (.within 1) [⟨some "serde", .arguments [.ident "skip", .punct ',' false,
    .ident "default", .group .parenthesis [], .punct ',' false, .ident "flatten"]⟩] =
      { skip := true } := by
  rfl

end SwaggerDocs.Source.FieldOptions
