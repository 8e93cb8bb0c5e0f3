/-
Module: SwaggerDocs.Source.Grammar.Basic
Purpose: Readers of token lists: looking ahead, taking one token, going into brackets, and repetition.
  A reader gives a result and the tokens that it leaves, or nothing if the tokens do not fit.
Main exports: TokenReader, keyword, punct, inside, separated, terminated, chain
-/
import SwaggerDocs.Source.Token

namespace SwaggerDocs.Source

/-- A reader of tokens. -/
abbrev TokenReader := StateT (List Token) Option

namespace Grammar

/-! ### Looking ahead -/

/-- The keywords, which are no identifiers. -/
def keywords : List String := [
  "_", "abstract", "as", "async", "await", "become", "box", "break", "const", "continue", "crate",
  "do", "dyn", "else", "enum", "extern", "false", "final", "fn", "for", "if", "impl", "in", "let",
  "loop", "macro", "match", "mod", "move", "mut", "override", "priv", "pub", "ref", "return", "Self",
  "self", "static", "struct", "super", "trait", "true", "try", "type", "typeof", "unsafe", "unsized",
  "use", "virtual", "where", "while", "yield"]

/-- The tokens begin with an identifier or a keyword. -/
def startsWord : List Token → Bool
  | .ident _ :: _ => true
  | _ => false

/-- The tokens begin with an identifier. -/
def startsIdent : List Token → Bool
  | .ident name :: _ => !keywords.contains name
  | _ => false

/-- The tokens begin with a given word. -/
def startsKeyword (word : String) : List Token → Bool
  | .ident name :: _ => name = word
  | _ => false

/-- The tokens begin with one of some words. -/
def startsAny (words : List String) : List Token → Bool
  | .ident name :: _ => words.contains name
  | _ => false

/-- The tokens begin with given punctuation, whose characters but the last are joint. -/
def startsPunctChars : List Char → List Token → Bool
  | [], _ => true
  | [c], .punct d _ :: _ => c = d
  | c :: cs, .punct d joint :: rest => c = d && joint && startsPunctChars cs rest
  | _, _ => false

def startsPunct (text : String) (tokens : List Token) : Bool :=
  startsPunctChars text.toList tokens

def startsLifetime : List Token → Bool
  | .lifetime _ :: _ => true
  | _ => false

/-- The tokens begin with brackets of a kind. -/
def startsGroup (delimiter : Delimiter) : List Token → Bool
  | .group d _ :: _ => d = delimiter
  | _ => false

/-- The tokens begin with a literal; the truth values and numbers with a minus sign are literals. -/
def startsLiteral : List Token → Bool
  | .literal _ :: _ => true
  | .ident name :: _ => name = "true" || name = "false"
  | .punct '-' _ :: .literal (.integer _) :: _ => true
  | .punct '-' _ :: .literal (.float _) :: _ => true
  | _ => false

/-- The words that stand for a place in a path. -/
def pathWords : List String := ["super", "self", "Self", "crate"]

/-- The tokens begin with a segment of a path. -/
def startsSegment (tokens : List Token) : Bool := startsIdent tokens || startsAny pathWords tokens

/-! ### Taking tokens -/

/-- Whether no tokens are left. -/
def atEnd : TokenReader Bool := return (← get).isEmpty

/-- Takes one token of any kind. -/
def anyToken : TokenReader Token := do
  match ← get with
  | token :: rest => set rest; return token
  | [] => failure

/-- Takes an identifier. -/
def ident : TokenReader String := do
  match ← get with
  | .ident name :: rest => if keywords.contains name then failure else set rest; return name
  | _ => failure

/-- Takes an identifier or a keyword. -/
def word : TokenReader String := do
  match ← get with
  | .ident name :: rest => set rest; return name
  | _ => failure

/-- Takes a given word. -/
def keyword (text : String) : TokenReader Unit := do
  if startsKeyword text (← get) then discard anyToken else failure

/-- Takes a given word, if it is there. -/
def optionalKeyword (text : String) : TokenReader Bool := do
  if startsKeyword text (← get) then discard anyToken; return true else return false

/-- Takes given punctuation. -/
def punct (text : String) : TokenReader Unit := do
  if startsPunct text (← get) then set ((← get).drop text.length) else failure

/-- Takes given punctuation, if it is there. -/
def optionalPunct (text : String) : TokenReader Bool := do
  if startsPunct text (← get) then punct text; return true else return false

/-- Takes a lifetime. -/
def lifetime : TokenReader Unit := do
  if startsLifetime (← get) then discard anyToken else failure

/-- Takes a lifetime, if it is there. -/
def optionalLifetime : TokenReader Unit := do
  if startsLifetime (← get) then discard anyToken

/-- Takes a literal. -/
def literal : TokenReader Unit := do
  match ← get with
  | .literal _ :: rest => set rest
  | .punct '-' _ :: .literal _ :: rest => set rest
  | .ident _ :: rest => set rest
  | _ => failure

/-- Takes a string literal. -/
def stringLiteral : TokenReader String := do
  match ← get with
  | .literal (.string text) :: rest => set rest; return text
  | _ => failure

/-- Takes brackets of a kind with any content. -/
def group (delimiter : Delimiter) : TokenReader (List Token) := do
  match ← get with
  | .group d inner :: rest => if d = delimiter then set rest; return inner else failure
  | _ => failure

/-- Takes brackets of any kind. -/
def anyGroup : TokenReader Delimiter := do
  match ← get with
  | .group d _ :: rest => set rest; return d
  | _ => failure

/-! ### Combining readers -/

/-- Reads all of the given tokens. -/
def all {α : Type} (reader : TokenReader α) (tokens : List Token) : TokenReader α :=
  match reader.run tokens with
  | some (value, []) => return value
  | _ => failure

/-- Takes brackets of a kind whose content a reader reads to its end. -/
def inside {α : Type} (delimiter : Delimiter) (reader : TokenReader α) : TokenReader α := do
  all reader (← group delimiter)

/-- Reads as often as the tokens that are left have a property. The fuel bounds the number of
    rounds. -/
def repeatWithin {α : Type} (test : List Token → Bool) (reader : TokenReader α) :
    Nat → TokenReader (List α)
  | 0 => return []
  | fuel + 1 => do
      if test (← get) then
        let value ← reader
        let values ← repeatWithin test reader fuel
        return value :: values
      else return []

/-- Reads as often as the tokens that are left have a property. -/
def repeatWhile {α : Type} (test : List Token → Bool) (reader : TokenReader α) :
    TokenReader (List α) := do
  repeatWithin test reader (← get).length

/-- Reads items up to the end, or up to tokens with a property. A separator stands between two items,
    and may follow the last one. The fuel bounds the number of items. -/
def separatedWithin {α : Type} (stop : List Token → Bool) (separator : String)
    (reader : TokenReader α) : Nat → TokenReader (List α)
  | 0 => return []
  | fuel + 1 => do
      if stop (← get) then return []
      let value ← reader
      if stop (← get) then return [value]
      punct separator
      let values ← separatedWithin stop separator reader fuel
      return value :: values

/-- Reads items with a separator up to tokens with a property. -/
def separated {α : Type} (stop : List Token → Bool) (separator : String)
    (reader : TokenReader α) : TokenReader (List α) := do
  separatedWithin stop separator reader ((← get).length + 1)

/-- Reads items with commas up to the end. -/
def terminated {α : Type} (reader : TokenReader α) : TokenReader (List α) :=
  separated List.isEmpty "," reader

/-- Reads items for as long as a separator follows, and stops after one before tokens with a
    property. -/
def chainWithin {α : Type} (stop : List Token → Bool) (separator : String)
    (reader : TokenReader α) : Nat → TokenReader (List α)
  | 0 => return []
  | fuel + 1 => do
      if stop (← get) then return []
      let value ← reader
      if ← optionalPunct separator then
        let values ← chainWithin stop separator reader fuel
        return value :: values
      else return [value]

/-- Reads items for as long as a separator follows. -/
def chain {α : Type} (stop : List Token → Bool) (separator : String)
    (reader : TokenReader α) : TokenReader (List α) := do
  chainWithin stop separator reader ((← get).length + 1)

end Grammar

end SwaggerDocs.Source
