/-
Module: SwaggerDocs.Source.FieldOptions
Purpose: The serialization options of fields and variants, which are written as arguments of `serde`
  attributes. Options that documents do not need are read over. An attribute that breaks off keeps
  what was read before.
Main exports: FieldOptions, FieldOptions.ofAttributes
-/
import SwaggerDocs.Source.Grammar.Types

namespace SwaggerDocs.Source

/-- The options of a field or variant. -/
structure FieldOptions where
  /-- The name under which it is written. -/
  rename : Option String := none
  /-- It is not written. -/
  skip : Bool := false
  /-- Its own fields are written in its place. -/
  flatten : Bool := false
deriving Repr, DecidableEq, Inhabited

namespace FieldOptions

open Grammar

/-- Words of any kind with separators between them. -/
def words? : List Token → Option (List String × List Token)
  | .ident name :: .punct ':' true :: .punct ':' _ :: rest =>
      (words? rest).map fun (path, rest) => (name :: path, rest)
  | .ident name :: rest => some ([name], rest)
  | _ => none

/-- The path of an option; a leading separator gives an empty name at the beginning. -/
def optionPath? : List Token → Option (List String × List Token)
  | .punct ':' true :: .punct ':' _ :: rest =>
      (words? rest).map fun (path, rest) => ("" :: path, rest)
  | tokens => words? tokens

/-- The value of an option that is a string literal. -/
def textValue? : List Token → Option (String × List Token)
  | .punct '=' _ :: .literal (.string text) :: rest => some (text, rest)
  | _ => none

/-- What follows the comma after an option, or the end. -/
def afterOption? : List Token → Option (List Token)
  | [] => some []
  | .punct ',' _ :: rest => some rest
  | _ => none

/-- What the value of an option does to a state. There is no rest if the value does not fit. -/
abbrev OptionAction (σ : Type) := List String → List Token → σ → σ × Option (List Token)

/-- Reads options up to the end. There has to be one. The second result tells whether all of them fit.
    The fuel bounds their number. -/
def readWithin {σ : Type} (action : OptionAction σ) : Nat → List Token → σ → σ × Bool
  | 0, _, state => (state, false)
  | fuel + 1, tokens, state =>
      match optionPath? tokens with
      | none => (state, false)
      | some (path, rest) =>
          match action path rest state with
          | (state, none) => (state, false)
          | (state, some rest) =>
              match afterOption? rest with
              | none => (state, false)
              | some [] => (state, true)
              | some (token :: rest) => readWithin action fuel (token :: rest) state

/-- Reads the options of one list. -/
def read {σ : Type} (action : OptionAction σ) (tokens : List Token) (state : σ) : σ × Bool :=
  readWithin action (tokens.length + 1) tokens state

/-- Reads over the value of an option, or the options in its parentheses with their values. The fuel
    bounds the depth of the parentheses. -/
def skipValue? (inner : Inner) : Nat → List Token → Option (List Token)
  | 0, _ => none
  | fuel + 1, tokens =>
      match tokens with
      | .punct '=' _ :: rest => ((inner.expression true).run rest).map (·.2)
      | .group .parenthesis nested :: rest =>
          if (read (fun _ rest (_ : Unit) => ((), skipValue? inner fuel rest)) nested ()).2 then
            some rest
          else none
      | tokens => some tokens

/-- Reads over what follows the path of an option. -/
def skipRest? (inner : Inner) (tokens : List Token) : Option (List Token) :=
  skipValue? inner (Token.weightAll tokens + 1) tokens

/-- Takes an option that gives a name for writing, and reads over any other. -/
def takeName (inner : Inner) : OptionAction FieldOptions
  | ["serialize"], tokens, options =>
      match textValue? tokens with
      | some (text, rest) => ({ options with rename := some text }, some rest)
      | none => (options, none)
  | _, tokens, options => (options, skipRest? inner tokens)

/-- Takes a new name, which is a text or an option in parentheses. -/
def takeRename (inner : Inner) (tokens : List Token) (options : FieldOptions) :
    FieldOptions × Option (List Token) :=
  match tokens with
  | .punct '=' _ :: _ =>
      match textValue? tokens with
      | some (text, rest) => ({ options with rename := some text }, some rest)
      | none => (options, none)
  | .group .parenthesis nested :: rest =>
      match read (takeName inner) nested options with
      | (options, true) => (options, some rest)
      | (options, false) => (options, none)
  | _ => (options, none)

/-- Takes one option of an attribute. -/
def takeOption (inner : Inner) : OptionAction FieldOptions
  | ["rename"], tokens, options => takeRename inner tokens options
  | ["flatten"], tokens, options => ({ options with flatten := true }, some tokens)
  | ["skip"], tokens, options => ({ options with skip := true }, some tokens)
  | ["skip_serializing"], tokens, options => ({ options with skip := true }, some tokens)
  | _, tokens, options => (options, skipRest? inner tokens)

/-- Takes the options of one attribute. -/
def addAttribute (inner : Inner) (options : FieldOptions) (a : Attribute) : FieldOptions :=
  if a.name = some "serde" then
    match a.body with
    | .arguments (token :: rest) => (read (takeOption inner) (token :: rest) options).1
    | _ => options
  else options

/-- The options that attributes state. Later ones are added to earlier ones. -/
def ofAttributes (inner : Inner) (attributes : List Attribute) : FieldOptions :=
  attributes.foldl (addAttribute inner) {}

/-- The name of a field as it is written: the new one up to its first comma, unless that is empty. -/
def key? (options : FieldOptions) : Option String :=
  options.rename.bind fun name =>
    let key := String.ofList (name.toList.takeWhile (· != ','))
    if key.isEmpty then none else some key

end FieldOptions

end SwaggerDocs.Source
