/-
Module: SwaggerDocs.CommandLine.Arguments
Purpose: The arguments of the command line. An option takes its value from the same argument or from
  the next one; its value is looked at when something else follows it, so an unknown argument counts
  before a bad value. No option may be repeated.
Main exports: OutputFormat, Options, ArgumentError, Options.ofArguments
-/
import SwaggerDocs.Files.Path
import SwaggerDocs.Generation.Registry

namespace SwaggerDocs

/-- The formats of documents. -/
inductive OutputFormat where
  | json
  | yaml
deriving Repr, DecidableEq, Inhabited

/-- The format of a name. -/
def OutputFormat.ofName? : String → Option OutputFormat
  | "json" => some .json
  | "yaml" => some .yaml
  | _ => none

/-- The name of a format in messages. -/
def OutputFormat.display : OutputFormat → String
  | .json => "Json"
  | .yaml => "Yaml"

/-- What the command line asks for. -/
structure Options where
  source : Path
  format : OutputFormat
  output : Option Path
  keepFirst : Bool
  verbose : Bool
deriving Repr, DecidableEq

namespace Options

/-- The file to write, unless the output is standard output. -/
def outputFile? (options : Options) : Option Path :=
  options.output.filter fun path => !path.same ⟨"-"⟩

/-- The policy for identifiers that are registered again. -/
def policy (options : Options) : RegistrationPolicy :=
  if options.keepFirst then .firstWins else .overwrite

end Options

/-- Why arguments are not accepted, or what they ask for instead of a run. -/
inductive ArgumentError where
  | unknownArgument
  | invalidValue
  | tooManyValues
  | argumentConflict
  | missingArgument
  | help
  | version
deriving Repr, DecidableEq

/-- The name and version of the program. -/
def versionText : String := "openapi-from-docs 0.1.0\n"

namespace Arguments

/-- What takes a value. -/
inductive Slot where
  | source
  | format
  | output
deriving Repr, DecidableEq

/-- Options without a value. -/
inductive Flag where
  | keepFirst
  | verbose
  | help
  | version
deriving Repr, DecidableEq

/-- An option. -/
inductive Switch where
  | slot (slot : Slot)
  | flag (flag : Flag)
deriving Repr, DecidableEq

/-- The option of a long name. -/
def long? : String → Option Switch
  | "format" => some (.slot .format)
  | "output" => some (.slot .output)
  | "keep-first-definition" => some (.flag .keepFirst)
  | "verbose" => some (.flag .verbose)
  | "help" => some (.flag .help)
  | "version" => some (.flag .version)
  | _ => none

/-- The option of a letter. -/
def short? : Char → Option Switch
  | 'f' => some (.slot .format)
  | 'o' => some (.slot .output)
  | 'v' => some (.flag .verbose)
  | 'h' => some (.flag .help)
  | 'V' => some (.flag .version)
  | _ => none

/-- What was read so far. -/
structure State where
  source : Option Path := none
  format : Option OutputFormat := none
  output : Option Path := none
  keepFirst : Bool := false
  verbose : Bool := false
  /-- What was begun and is still to be stored, with its value as soon as that was read. -/
  pending : Option (Slot × Option String) := none
  /-- The next argument is a value if it looks like one. -/
  waiting : Bool := false
  /-- All further arguments are values. -/
  trailing : Bool := false
  /-- The source was given. -/
  positioned : Bool := false
deriving Repr

/-- The result of a step. -/
abbrev Step := Except ArgumentError State

/-- A path is not empty. -/
def path? (value : String) : Option Path := if value.isEmpty then none else some ⟨value⟩

/-- Stores a value once. -/
def store (state : State) (slot : Slot) (value : String) : Step :=
  match slot with
  | .source =>
      match path? value with
      | some path => .ok { state with source := some path }
      | none => .error .invalidValue
  | .format =>
      if state.format.isSome then .error .argumentConflict
      else
        match OutputFormat.ofName? value with
        | some format => .ok { state with format := some format }
        | none => .error .invalidValue
  | .output =>
      if state.output.isSome then .error .argumentConflict
      else
        match path? value with
        | some path => .ok { state with output := some path }
        | none => .error .invalidValue

/-- Stores what is pending. -/
def resolve (state : State) : Step :=
  match state.pending with
  | none => .ok state
  | some (_, none) => .error .invalidValue
  | some (slot, some value) => store { state with pending := none } slot value

/-- Sets a flag once. -/
def setFlag (state : State) : Flag → Step
  | .keepFirst =>
      if state.keepFirst then .error .argumentConflict else .ok { state with keepFirst := true }
  | .verbose =>
      if state.verbose then .error .argumentConflict else .ok { state with verbose := true }
  | .help => .error .help
  | .version => .error .version

/-- Takes a flag. -/
def takeFlag (state : State) (flag : Flag) : Step := do
  let state ← resolve state
  let state ← setFlag state flag
  return { state with waiting := false }

/-- Takes an option with the value that is attached to it, or waits for a value. -/
def takeSlot (state : State) (slot : Slot) (value : Option String) : Step := do
  let state ← resolve state
  match value with
  | some value =>
      let state ← store state slot value
      return { state with waiting := false }
  | none => return { state with pending := some (slot, none), waiting := true }

/-- Takes an option by its long name. -/
def takeLong (state : State) (name : String) (value : Option String) : Step :=
  match long? name, value with
  | none, _ => .error .unknownArgument
  | some (.slot slot), value => takeSlot state slot value
  | some (.flag _), some _ => .error .tooManyValues
  | some (.flag flag), none => takeFlag state flag

/-- Takes options by their letters. What follows the letter of an option with a value is the value,
    perhaps after an equals sign. -/
def takeShort (state : State) : List Char → Step
  | [] => .ok state
  | c :: rest =>
      match short? c with
      | none => .error .unknownArgument
      | some (.flag flag) =>
          match takeFlag state flag with
          | .ok state => takeShort state rest
          | .error e => .error e
      | some (.slot slot) =>
          match rest with
          | [] => takeSlot state slot none
          | '=' :: value => takeSlot state slot (some (String.ofList value))
          | value => takeSlot state slot (some (String.ofList value))

/-- Takes a value for the option that waits, or else the source. -/
def takeValue (state : State) (value : String) : Step := do
  match state.waiting && !state.trailing, state.pending with
  | true, some (slot, _) => return { state with pending := some (slot, some value), waiting := false }
  | _, _ =>
      if state.positioned then throw .unknownArgument
      let state ← resolve state
      return { state with
        pending := some (.source, some value), waiting := false, positioned := true }

/-- The name and the attached value of a long option. -/
def splitEquals (cs : List Char) : String × Option String :=
  match cs.dropWhile (· != '=') with
  | '=' :: value => (String.ofList (cs.takeWhile (· != '=')), some (String.ofList value))
  | _ => (String.ofList cs, none)

/-- Takes one argument. -/
def take (state : State) (argument : String) : Step :=
  if state.trailing then takeValue state argument
  else
    match argument.toList with
    | ['-', '-'] => .ok { state with trailing := true }
    | '-' :: '-' :: rest => takeLong state (splitEquals rest).1 (splitEquals rest).2
    | '-' :: c :: rest => takeShort state (c :: rest)
    | _ => takeValue state argument

/-- The options of a state at the end of the arguments. -/
def finish (state : State) : Except ArgumentError Options := do
  let state ← resolve state
  match state.source with
  | none => throw .missingArgument
  | some source =>
      return {
        source := source
        format := state.format.getD .json
        output := state.output
        keepFirst := state.keepFirst
        verbose := state.verbose }

end Arguments

/-- Reads the arguments of the command line. -/
def Options.ofArguments (arguments : List String) : Except ArgumentError Options := do
  Arguments.finish (← arguments.foldlM Arguments.take {})

end SwaggerDocs
