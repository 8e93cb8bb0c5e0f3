/-
Module: SwaggerDocs.Text.CharClass
Purpose: The character classes that the readers share: blank characters, the word characters of
  directive arguments, the characters that start and continue an identifier, and hexadecimal digits.
Main exports: isBlank, isWordChar, isIdentStart, isIdentContinue, hexDigit?
-/
import SwaggerDocs.Text.GeneralCategory

namespace SwaggerDocs.Text

/-- Code points with the Unicode property White_Space. -/
def blanks : List CodeRange := [
  (0x9, 0xd), (0x20, 0x20), (0x85, 0x85), (0xa0, 0xa0), (0x1680, 0x1680), (0x2000, 0x200a),
  (0x2028, 0x2029), (0x202f, 0x202f), (0x205f, 0x205f), (0x3000, 0x3000)]

/-- A blank character has the Unicode property White_Space. -/
def isBlank (c : Char) : Bool := covers blanks c.toNat

/-- Word characters beyond letters and extenders: enclosing marks, the two joiners, and the enclosed
    Latin letters that count as alphabetic. -/
def wordExtras : List CodeRange := [
  (0x488, 0x489), (0x1abe, 0x1abe), (0x200c, 0x200d), (0x20dd, 0x20e0), (0x20e2, 0x20e4),
  (0x24b6, 0x24e9), (0xa670, 0xa672), (0x1f130, 0x1f149), (0x1f150, 0x1f169), (0x1f170, 0x1f189)]

/-- A word character is alphabetic, a mark, a decimal digit, a connector or a joiner. -/
def isWordChar (c : Char) : Bool :=
  covers letters c.toNat || covers extenders c.toNat || covers wordExtras c.toNat

/-- Letters whose compatibility form would not be an identifier. They neither start nor continue
    one. -/
def unstableLetters : List CodeRange := [
  (0x37a, 0x37a), (0x2e2f, 0x2e2f), (0xfc5e, 0xfc63), (0xfdfa, 0xfdfb), (0xfe70, 0xfe70),
  (0xfe72, 0xfe72), (0xfe74, 0xfe74), (0xfe76, 0xfe76), (0xfe78, 0xfe78), (0xfe7a, 0xfe7a),
  (0xfe7c, 0xfe7c), (0xfe7e, 0xfe7e)]

/-- Letters that continue an identifier and do not start one. -/
def innerLetters : List CodeRange := [(0xe33, 0xe33), (0xeb3, 0xeb3), (0xff9e, 0xff9f)]

/-- Characters that start an identifier without being letters. -/
def starterExtras : List CodeRange := [(0x1885, 0x1886), (0x2118, 0x2118), (0x212e, 0x212e)]

/-- Characters that continue an identifier without being letters or extenders. -/
def innerExtras : List CodeRange := [
  (0xb7, 0xb7), (0x387, 0x387), (0x1369, 0x1371), (0x19da, 0x19da), (0x2118, 0x2118),
  (0x212e, 0x212e)]

/-- An identifier starts with an underscore or a character of the Unicode property XID_Start. -/
def isIdentStart (c : Char) : Bool :=
  c == '_' ||
    (covers letters c.toNat && !covers unstableLetters c.toNat && !covers innerLetters c.toNat) ||
    covers starterExtras c.toNat

/-- An identifier goes on with characters of the Unicode property XID_Continue. -/
def isIdentContinue (c : Char) : Bool :=
  (covers letters c.toNat && !covers unstableLetters c.toNat) ||
    covers extenders c.toNat || covers innerExtras c.toNat

/-- The value of a hexadecimal digit of either case. -/
def hexDigit? (c : Char) : Option Nat :=
  if c.isDigit then some (c.toNat - '0'.toNat)
  else if 'a' ≤ c ∧ c ≤ 'f' then some (c.toNat - 'a'.toNat + 10)
  else if 'A' ≤ c ∧ c ≤ 'F' then some (c.toNat - 'A'.toNat + 10)
  else none

end SwaggerDocs.Text
