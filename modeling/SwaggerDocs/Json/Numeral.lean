/-
Module: SwaggerDocs.Json.Numeral
Purpose: Numerals of JSON texts and their values. A numeral without fraction and exponent that fits
  a 64-bit word is an integer. Any other numeral is a double: its digits are collected while they fit
  an unsigned word, and the word is scaled by one power of ten.
Main exports: Numeral, Numeral.scan?, Numeral.value?
-/
import SwaggerDocs.Json.Basic

namespace SwaggerDocs.Json

/-- The parts of a numeral. Digits are in writing order; a numeral without fraction or exponent has
    none of it. -/
structure Numeral where
  negative : Bool
  whole : List Nat
  fraction : Option (List Nat)
  exponent : Option Int
deriving Repr, DecidableEq

/-- The value of a decimal digit. -/
def digit? (c : Char) : Option Nat := if c.isDigit then some (c.toNat - '0'.toNat) else none

/-- The digits at the beginning of a text, and the rest. -/
def scanDigits : List Char → List Nat × List Char
  | [] => ([], [])
  | c :: rest =>
      match digit? c with
      | some d => let more := scanDigits rest; (d :: more.1, more.2)
      | none => ([], c :: rest)

/-- The number that digits write. -/
def digitsValue (digits : List Nat) : Nat := digits.foldl (fun n d => n * 10 + d) 0

namespace Numeral

/-- The whole part has digits and starts with zero only if it is zero. -/
def scanWhole? (cs : List Char) : Option (List Nat × List Char) :=
  match scanDigits cs with
  | ([], _) => none
  | (0 :: _ :: _, _) => none
  | (digits, rest) => some (digits, rest)

/-- A fraction has a point and at least one digit. -/
def scanFraction? : List Char → Option (Option (List Nat) × List Char)
  | '.' :: rest =>
      match scanDigits rest with
      | ([], _) => none
      | (digits, rest) => some (some digits, rest)
  | cs => some (none, cs)

/-- The digits of an exponent after its sign. -/
def scanExponentDigits? (sign : Int) (cs : List Char) : Option (Option Int × List Char) :=
  match scanDigits cs with
  | ([], _) => none
  | (digits, rest) => some (some (sign * digitsValue digits), rest)

/-- An exponent has a letter, perhaps a sign, and at least one digit. -/
def scanExponent? : List Char → Option (Option Int × List Char)
  | c :: rest =>
      if c = 'e' ∨ c = 'E' then
        match rest with
        | '+' :: rest => scanExponentDigits? 1 rest
        | '-' :: rest => scanExponentDigits? (-1) rest
        | _ => scanExponentDigits? 1 rest
      else some (none, c :: rest)
  | [] => some (none, [])

/-- Reads the numeral at the beginning of a text. -/
def scan? (cs : List Char) : Option (Numeral × List Char) :=
  let (negative, cs) := match cs with
    | '-' :: rest => (true, rest)
    | _ => (false, cs)
  match scanWhole? cs with
  | none => none
  | some (whole, cs) =>
      match scanFraction? cs with
      | none => none
      | some (fraction, cs) =>
          match scanExponent? cs with
          | none => none
          | some (exponent, cs) => some (⟨negative, whole, fraction, exponent⟩, cs)

/-- Collects digits while the number fits an unsigned 64-bit word. The results are the number, how
    many digits it took in, and how many were left over. -/
def collect (word taken : Nat) : List Nat → Nat × Nat × Nat
  | [] => (word, taken, 0)
  | d :: rest =>
      if word * 10 + d < Nat.pow 2 64 then collect (word * 10 + d) (taken + 1) rest
      else (word, taken, rest.length + 1)

/-- The power of ten with a natural exponent of at most 308. -/
def powerOfTen (n : Nat) : Float := Float.ofScientific 1 false n

/-- Divides by `10 ^ n` in steps of at most `10 ^ 308`, and stops early at zero. -/
def divide (x : Float) (n : Nat) : Float :=
  if n ≤ 308 then x / powerOfTen n
  else if x == 0 then x
  else divide (x / powerOfTen 308) (n - 308)
termination_by n
decreasing_by omega

/-- The double `word · 10 ^ exponent`, rounded once for the word and once for the scaling. There is
    none where the scaling leaves the finite range. -/
def scaled? (word : Nat) (exponent : Int) : Option Float :=
  let x := (UInt64.ofNat word).toFloat
  if exponent < 0 then some (divide x exponent.natAbs)
  else if exponent ≤ 308 then
    let y := x * powerOfTen exponent.natAbs
    if y.isInf then none else some y
  else if word = 0 then some x
  else none

/-- A double with the sign of the numeral. -/
def signed (negative : Bool) (x : Float) : Number :=
  .double (Double.ofFloat (if negative then -x else x))

/-- An integer below `2 ^ 64`, or above `-2 ^ 63` and below zero; other negative words are doubles,
    and so is negative zero. -/
def wordValue (negative : Bool) (word : Nat) : Number :=
  if negative then
    if word = 0 ∨ Nat.pow 2 63 < word then signed true (UInt64.ofNat word).toFloat
    else .integer (-word)
  else .integer word

/-- The value of a numeral. There is none where a double would be out of range. -/
def value? (n : Numeral) : Option Number :=
  let (word, _, overflow) := collect 0 0 n.whole
  match n.fraction, n.exponent, overflow with
  | none, none, 0 => some (wordValue n.negative word)
  | _, _, _ =>
      let (word, taken, _) := collect word 0 (n.fraction.getD [])
      let exponent : Int := overflow - taken + n.exponent.getD 0
      (scaled? word exponent).map (signed n.negative)

end Numeral

end SwaggerDocs.Json
