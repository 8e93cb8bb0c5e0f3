/-
Module: SwaggerDocs.Json.Reading
Purpose: JSON texts as far as they can be read. A reading keeps the tree that was read before the
  first offence against the grammar, so that a reader that expects a shape can tell whether the text
  first breaks the grammar or first breaks the shape. Strings and numerals without a value (a lone
  surrogate, a double out of range) are kept too: they offend only a reader that asks for the value.
Main exports: Reading, Reading.ofText, Reading.wellFormed, Reading.value?, parse?
-/
import SwaggerDocs.Entries
import SwaggerDocs.Json.Numeral
import SwaggerDocs.Text.CharClass
import SwaggerDocs.Text.Lines

namespace SwaggerDocs.Json

open Text (hexDigit? stripStart?)

/-- A JSON text as far as it can be read. `broken` stands where no value could be read; an array or
    object that is not `closed` is followed by an offence against the grammar. -/
inductive Reading where
  | null
  | bool (value : Bool)
  | number (value : Option Number)
  | string (value : Option String)
  | array (items : List Reading) (closed : Bool)
  | object (members : List (Option String × Reading)) (closed : Bool)
  | broken
deriving Repr, Inhabited

/-- The blank characters between tokens. -/
def isSpace (c : Char) : Bool := c = ' ' || c = '\n' || c = '\t' || c = '\r'

/-- The text without the blank characters at its beginning. -/
def skipSpaces (cs : List Char) : List Char := cs.dropWhile isSpace

/-- The four digits of a unit escape. -/
def hexUnit? : List Char → Option (Nat × List Char)
  | a :: b :: c :: d :: rest => do
      let a ← hexDigit? a
      let b ← hexDigit? b
      let c ← hexDigit? c
      let d ← hexDigit? d
      some (((a * 16 + b) * 16 + c) * 16 + d, rest)
  | _ => none

/-- One unit of a string: a character, or a 16-bit code unit written as an escape. -/
inductive StringUnit where
  | char (c : Char)
  | code (unit : Nat)
deriving Repr, DecidableEq

/-- The character of a one-letter escape. -/
def simpleEscape? : Char → Option Char
  | '"' => some '"'
  | '\\' => some '\\'
  | '/' => some '/'
  | 'b' => some '\x08'
  | 'f' => some '\x0c'
  | 'n' => some '\n'
  | 'r' => some '\r'
  | 't' => some '\t'
  | _ => none

/-- Reads the units of a string after its opening quote, up to and with the closing one. There are
    none if a control character stands in the string, an escape is unknown, or the text ends. -/
def scanUnits? : List Char → Option (List StringUnit × List Char)
  | [] => none
  | '"' :: rest => some ([], rest)
  | '\\' :: 'u' :: a :: b :: c :: d :: rest =>
      match hexUnit? [a, b, c, d] with
      | none => none
      | some (unit, _) =>
          match scanUnits? rest with
          | none => none
          | some (units, rest) => some (.code unit :: units, rest)
  | '\\' :: c :: rest =>
      match simpleEscape? c with
      | none => none
      | some c =>
          match scanUnits? rest with
          | none => none
          | some (units, rest) => some (.char c :: units, rest)
  | c :: rest =>
      if c.toNat < 0x20 ∨ c = '\\' then none
      else
        match scanUnits? rest with
        | none => none
        | some (units, rest) => some (.char c :: units, rest)

/-- A leading surrogate and the trailing one after it stand for one character; a surrogate that stands
    alone has none. -/
def unitsText? : List StringUnit → Option (List Char)
  | [] => some []
  | .char c :: rest => (unitsText? rest).map (c :: ·)
  | .code high :: .code low :: rest =>
      if 0xD800 ≤ high ∧ high < 0xDC00 then
        if 0xDC00 ≤ low ∧ low < 0xE000 then
          (unitsText? rest).map
            (Char.ofNat ((high - 0xD800) * 0x400 + (low - 0xDC00) + 0x10000) :: ·)
        else none
      else if 0xDC00 ≤ high ∧ high < 0xE000 then none
      else (unitsText? (.code low :: rest)).map (Char.ofNat high :: ·)
  | .code unit :: rest =>
      if 0xD800 ≤ unit ∧ unit < 0xE000 then none
      else (unitsText? rest).map (Char.ofNat unit :: ·)

/-- Reads a string after its opening quote. -/
def scanString? (cs : List Char) : Option (Option String × List Char) :=
  (scanUnits? cs).map fun (units, rest) => ((unitsText? units).map String.ofList, rest)

namespace Reading

/-- The reading of a word that has one value. -/
def scanConstant (value : Reading) (word cs : List Char) : Reading × List Char :=
  match stripStart? word cs with
  | some rest => (value, rest)
  | none => (.broken, cs)

/-- The reading of a numeral. -/
def scanNumber (cs : List Char) : Reading × List Char :=
  match Numeral.scan? cs with
  | some (numeral, rest) => (.number numeral.value?, rest)
  | none => (.broken, cs)

/-- The reading of a value ended the text or broke in it. -/
def isBroken : Reading → Bool
  | .broken => true
  | .array _ closed => !closed
  | .object _ closed => !closed
  | _ => false

mutual

/-- Reads a value after blank characters. The fuel bounds the depth of the calls; twice the length
    of the text suffices, since every second call takes a character. -/
def scan : Nat → List Char → Reading × List Char
  | 0, cs => (.broken, cs)
  | fuel + 1, cs =>
      match skipSpaces cs with
      | [] => (.broken, [])
      | 'n' :: rest => scanConstant .null ['u', 'l', 'l'] rest
      | 't' :: rest => scanConstant (.bool true) ['r', 'u', 'e'] rest
      | 'f' :: rest => scanConstant (.bool false) ['a', 'l', 's', 'e'] rest
      | '"' :: rest =>
          match scanString? rest with
          | some (value, rest) => (.string value, rest)
          | none => (.broken, rest)
      | '[' :: rest =>
          match skipSpaces rest with
          | ']' :: rest => (.array [] true, rest)
          | rest =>
              let (items, closed, rest) := scanItems fuel rest
              (.array items closed, rest)
      | '\x7b' :: rest =>
          match skipSpaces rest with
          | '\x7d' :: rest => (.object [] true, rest)
          | rest =>
              let (members, closed, rest) := scanMembers fuel rest
              (.object members closed, rest)
      | c :: rest => if c = '-' ∨ c.isDigit then scanNumber (c :: rest) else (.broken, c :: rest)

/-- Reads the items of an array up to its end. -/
def scanItems : Nat → List Char → List Reading × Bool × List Char
  | 0, cs => ([], false, cs)
  | fuel + 1, cs =>
      let (item, rest) := scan fuel cs
      if item.isBroken then ([item], false, rest)
      else
        match skipSpaces rest with
        | ']' :: rest => ([item], true, rest)
        | ',' :: rest =>
            match skipSpaces rest with
            | ']' :: rest => ([item], false, rest)
            | rest =>
                let (items, closed, rest) := scanItems fuel rest
                (item :: items, closed, rest)
        | rest => ([item], false, rest)

/-- Reads the members of an object up to its end. A member whose colon is missing has a broken
    value. -/
def scanMembers : Nat → List Char → List (Option String × Reading) × Bool × List Char
  | 0, cs => ([], false, cs)
  | fuel + 1, cs =>
      match skipSpaces cs with
      | '"' :: rest =>
          match scanString? rest with
          | none => ([], false, rest)
          | some (name, rest) =>
              match skipSpaces rest with
              | ':' :: rest =>
                  let (value, rest) := scan fuel rest
                  if value.isBroken then ([(name, value)], false, rest)
                  else
                    match skipSpaces rest with
                    | '\x7d' :: rest => ([(name, value)], true, rest)
                    | ',' :: rest =>
                        let (members, closed, rest) := scanMembers fuel rest
                        ((name, value) :: members, closed, rest)
                    | rest => ([(name, value)], false, rest)
              | rest => ([(name, .broken)], false, rest)
      | rest => ([], false, rest)

end

/-- The reading of a text, and whether only blank characters follow the value. -/
def ofText (text : String) : Reading × Bool :=
  let cs := text.toList
  let (reading, rest) := scan (2 * cs.length + 2) cs
  (reading, (skipSpaces rest).isEmpty)

mutual

/-- The text of the reading keeps to the grammar throughout. -/
def wellFormed : Reading → Bool
  | .broken => false
  | .array items closed => wellFormedItems items && closed
  | .object members closed => wellFormedMembers members && closed
  | _ => true

/-- `wellFormed` for all items. -/
def wellFormedItems : List Reading → Bool
  | [] => true
  | item :: rest => wellFormed item && wellFormedItems rest

/-- `wellFormed` for all values of members. -/
def wellFormedMembers : List (Option String × Reading) → Bool
  | [] => true
  | (_, value) :: rest => wellFormed value && wellFormedMembers rest

end

mutual

/-- The value of a reading that is well formed, has a value for every string and numeral, and nests
    arrays and objects at most `depth` deep. The last of several members of one name counts. -/
def value? (depth : Nat) : Reading → Option Json
  | .null => some .null
  | .bool b => some (.bool b)
  | .number n => n.map .number
  | .string s => s.map .string
  | .array items closed =>
      match depth with
      | 0 => none
      | depth + 1 =>
          match itemValues? depth items, closed with
          | some values, true => some (.array values)
          | _, _ => none
  | .object members closed =>
      match depth with
      | 0 => none
      | depth + 1 =>
          match memberValues? depth members, closed with
          | some values, true => some (.object (Entries.ofList values))
          | _, _ => none
  | .broken => none

/-- `value?` of all items. -/
def itemValues? (depth : Nat) : List Reading → Option (List Json)
  | [] => some []
  | item :: rest =>
      match value? depth item, itemValues? depth rest with
      | some value, some values => some (value :: values)
      | _, _ => none

/-- `value?` of all members. -/
def memberValues? (depth : Nat) : List (Option String × Reading) → Option (List (String × Json))
  | [] => some []
  | (name, item) :: rest =>
      match name, value? depth item, memberValues? depth rest with
      | some name, some value, some values => some ((name, value) :: values)
      | _, _, _ => none

end

end Reading

/-- How deep arrays and objects may nest in a text. -/
def depthLimit : Nat := 127

/-- The value of a text. -/
def parse? (text : String) : Option Json :=
  match Reading.ofText text with
  | (reading, true) => reading.value? depthLimit
  | (_, false) => none

end SwaggerDocs.Json
