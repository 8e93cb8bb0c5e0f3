/-
Module: SwaggerDocs.Yaml.Resolution
Purpose: Which plain scalars of a YAML text are read as something else than a string: null, truth
  values, integers and finite numbers. A string with such a text is written in quotes.
Main exports: isNullWord, isBoolWord, isNumber, isOtherThanString
-/
import SwaggerDocs.Json.Reading

namespace SwaggerDocs.Yaml

open Json (scanDigits digitsValue)
open Text (hexDigit?)

/-- The words for null. The empty text is null too. -/
def isNullWord (text : String) : Bool := ["", "null", "Null", "NULL", "~"].contains text

/-- The words for truth values. -/
def isBoolWord (text : String) : Bool :=
  ["true", "True", "TRUE", "false", "False", "FALSE"].contains text

/-- The number that digits of a base write; there is none for no digits. -/
def radixValue? (base : Nat) : List Char → Option Nat
  | [] => none
  | cs => cs.foldl (fun acc c => acc.bind fun n =>
      match hexDigit? c with
      | some d => if d < base then some (n * base + d) else none
      | none => none) (some 0)

/-- The base of a marked integer, by the letter after its zero. -/
def radix? : Char → Option Nat
  | 'x' => some 16
  | 'o' => some 8
  | 'b' => some 2
  | _ => none

/-- An integer with a base mark that fits an unsigned 128-bit word, or with a minus sign a signed
    one. -/
def isMarkedInteger (negative : Bool) : List Char → Bool
  | '0' :: mark :: digits =>
      match (radix? mark).bind fun base => radixValue? base digits with
      | some n => if negative then n ≤ Nat.pow 2 127 else n < Nat.pow 2 128
      | none => false
  | _ => false

/-- A text of digits after at most one sign with an unneeded leading zero. It is no number, but it is
    kept apart from plain strings all the same. -/
def isPaddedDigits (cs : List Char) : Bool :=
  match cs with
  | '0' :: rest => !rest.isEmpty && rest.all Char.isDigit
  | _ => false

/-- A decimal numeral: digits with at most one point, at least one digit, and perhaps an exponent. -/
structure DecimalText where
  whole : List Nat
  fraction : List Nat
  exponent : Int
deriving Repr, DecidableEq

namespace DecimalText

/-- The exponent at the end of a numeral. -/
def exponent? : List Char → Option Int
  | [] => some 0
  | mark :: rest =>
      if mark = 'e' ∨ mark = 'E' then
        let (sign, rest) : Int × List Char :=
          match rest with
          | '+' :: rest => (1, rest)
          | '-' :: rest => (-1, rest)
          | _ => (1, rest)
        match scanDigits rest with
        | ([], _) => none
        | (digits, []) => some (sign * digitsValue digits)
        | _ => none
      else none

/-- Reads a whole text without a sign. -/
def ofText? (cs : List Char) : Option DecimalText :=
  let (whole, rest) := scanDigits cs
  let (fraction, rest) :=
    match rest with
    | '.' :: rest => scanDigits rest
    | _ => ([], rest)
  if whole.isEmpty ∧ fraction.isEmpty then none
  else (exponent? rest).map fun e => ⟨whole, fraction, e⟩

/-- The first number that is too large for a double: half a unit above the greatest one. -/
def bound : Nat := (Nat.pow 2 54 - 1) * Nat.pow 2 970

/-- The numeral rounds to a finite double. The place of its first digit decides, unless it is that of
    the bound. -/
def isFinite (d : DecimalText) : Bool :=
  let digits := (d.whole ++ d.fraction).dropWhile (· = 0)
  let scale := d.exponent - d.fraction.length
  if digits.isEmpty then true
  else
    let place := (digits.length : Int) - 1 + scale
    if place < 308 then true
    else if 308 < place then false
    else if scale < 0 then digitsValue digits < bound * Nat.pow 10 scale.natAbs
    else digitsValue digits * Nat.pow 10 scale.natAbs < bound

end DecimalText

/-- The words for infinities and for what is no number, after an optional plus sign. -/
def isSpecialNumber (text : String) : Bool :=
  [".inf", ".Inf", ".INF", "+.inf", "+.Inf", "+.INF", "-.inf", "-.Inf", "-.INF",
    ".nan", ".NaN", ".NAN", "+.nan", "+.NaN", "+.NAN"].contains text

/-- The text after at most one sign, and whether that is a minus sign. -/
def splitSign : List Char → Bool × List Char
  | '-' :: rest => (true, rest)
  | '+' :: rest => (false, rest)
  | cs => (false, cs)

/-- The text is an integer or a finite number in one of its spellings, or digits with padding. -/
def isNumber (text : String) : Bool :=
  let (negative, rest) := splitSign text.toList
  isSpecialNumber text || isMarkedInteger negative rest || isPaddedDigits rest ||
    match DecimalText.ofText? rest with
    | some d => d.isFinite
    | none => false

/-- A plain scalar of this text is not read as a string. -/
def isOtherThanString (text : String) : Bool :=
  isNullWord text || isBoolWord text || isNumber text

end SwaggerDocs.Yaml
