/-
Module: SwaggerDocs.Source.Lexer
Purpose: Reading of Rust source text as tokens. Blank characters and plain comments are skipped, and a
  documentation comment becomes the attribute that it stands for.
Main exports: Lexer.tokens?
-/
import SwaggerDocs.Source.Token
import SwaggerDocs.Text.CharClass
import SwaggerDocs.Text.Lines

namespace SwaggerDocs.Source.Lexer

open Text (isBlank isIdentStart isIdentContinue hexDigit? stripStart?)

/-! ### Comments -/

/-- A character that separates tokens: a blank one, or a direction mark. -/
def isSeparator (c : Char) : Bool := isBlank c || c = '\u200e' || c = '\u200f'

/-- The text up to the end of its first line, and the rest from the line feed on. -/
def splitLineEnd : List Char → List Char × List Char
  | [] => ([], [])
  | '\n' :: rest => ([], '\n' :: rest)
  | '\r' :: '\n' :: rest => ([], '\n' :: rest)
  | c :: rest => (c :: (splitLineEnd rest).1, (splitLineEnd rest).2)

/-- The text of a block comment up to its end, and what follows. Comments nest; `depth` counts those
    that were opened inside. -/
def splitBlock? : Nat → List Char → Option (List Char × List Char)
  | _, [] => none
  | 0, '*' :: '/' :: rest => some ([], rest)
  | depth + 1, '*' :: '/' :: rest =>
      (splitBlock? depth rest).map fun (text, rest) => ('*' :: '/' :: text, rest)
  | depth, '/' :: '*' :: rest =>
      (splitBlock? (depth + 1) rest).map fun (text, rest) => ('/' :: '*' :: text, rest)
  | depth, c :: rest => (splitBlock? depth rest).map fun (text, rest) => (c :: text, rest)

/-- A documentation comment must not hold a carriage return without a line feed after it. -/
def hasBareReturn : List Char → Bool
  | [] => false
  | '\r' :: '\n' :: rest => hasBareReturn rest
  | c :: rest => c = '\r' || hasBareReturn rest

/-- Where a documentation comment belongs: to what follows it, or to what it stands in. -/
inductive Placement where
  | outer
  | inner
deriving Repr, DecidableEq

/-- A comment at the beginning of a text. -/
inductive Comment where
  | plain
  | documentation (placement : Placement) (text : List Char)
deriving Repr, DecidableEq

/-- A comment and what follows it. There is none for a block comment without an end. -/
def comment? : List Char → Option (Comment × List Char)
  | '/' :: '/' :: '!' :: rest =>
      let (text, rest) := splitLineEnd rest
      some (.documentation .inner text, rest)
  | '/' :: '/' :: '/' :: '/' :: rest => some (.plain, (splitLineEnd rest).2)
  | '/' :: '/' :: '/' :: rest =>
      let (text, rest) := splitLineEnd rest
      some (.documentation .outer text, rest)
  | '/' :: '/' :: rest => some (.plain, (splitLineEnd rest).2)
  | '/' :: '*' :: '!' :: rest =>
      (splitBlock? 0 rest).map fun (text, rest) => (.documentation .inner text, rest)
  | '/' :: '*' :: '*' :: '/' :: rest => some (.plain, rest)
  | '/' :: '*' :: '*' :: '*' :: rest =>
      (splitBlock? 0 ('*' :: '*' :: rest)).map fun (_, rest) => (.plain, rest)
  | '/' :: '*' :: '*' :: rest =>
      (splitBlock? 0 rest).map fun (text, rest) => (.documentation .outer text, rest)
  | '/' :: '*' :: rest => (splitBlock? 0 rest).map fun (_, rest) => (.plain, rest)
  | _ => none

/-- The attribute that a documentation comment stands for. -/
def documentationTokens (placement : Placement) (text : List Char) : List Token :=
  (match placement with
    | .outer => [.punct '#' false]
    | .inner => [.punct '#' false, .punct '!' false]) ++
  [.group .bracket [.ident "doc", .punct '=' false, .literal (.string (String.ofList text))]]

/-- Skips blank characters and plain comments. -/
def skipTrivia : Nat → List Char → List Char
  | 0, cs => cs
  | _ + 1, [] => []
  | fuel + 1, c :: rest =>
      if isSeparator c then skipTrivia fuel rest
      else
        match comment? (c :: rest) with
        | some (.plain, rest) => skipTrivia fuel rest
        | _ => c :: rest

/-! ### Identifiers and punctuation -/

/-- An identifier without a mark. -/
def word? : List Char → Option (List Char × List Char)
  | [] => none
  | c :: rest =>
      if isIdentStart c then some (c :: rest.takeWhile isIdentContinue, rest.dropWhile isIdentContinue)
      else none

/-- Names that cannot be raw identifiers. -/
def neverRaw : List String := ["_", "super", "self", "Self", "crate"]

/-- An identifier, perhaps a raw one. -/
def anyIdent? : List Char → Option (List Char × List Char)
  | 'r' :: '#' :: rest =>
      (word? rest).bind fun (name, rest) =>
        if neverRaw.contains (String.ofList name) then none else some (rawMark ++ name, rest)
  | cs => word? cs

/-- Beginnings of string and character literals. They begin no identifier. -/
def literalStarts : List String :=
  ["r\"", "r#\"", "r##", "b\"", "b\x27", "br\"", "br#", "c\"", "cr\"", "cr#"]

/-- An identifier that is not the beginning of a literal. -/
def ident? (cs : List Char) : Option (List Char × List Char) :=
  if literalStarts.any fun start => (stripStart? start.toList cs).isSome then none else anyIdent? cs

/-- The punctuation characters. -/
def punctuation : List Char := "~!@#$%^&*-=+|;:,<.>/?\x27".toList

/-- The text begins with punctuation and not with a comment. -/
def startsPunct : List Char → Bool
  | [] => false
  | '/' :: '/' :: _ => false
  | '/' :: '*' :: _ => false
  | c :: _ => punctuation.contains c

/-- A lifetime, or a punctuation character. -/
def punct? : List Char → Option (Token × List Char)
  | [] => none
  | '\x27' :: rest =>
      (anyIdent? rest).bind fun (name, rest) =>
        if rest.head? = some '\x27' then none else some (.lifetime (String.ofList name), rest)
  | c :: rest =>
      if startsPunct (c :: rest) then some (.punct c (startsPunct rest), rest) else none

/-! ### Strings and characters -/

/-- What the parts of a quoted literal may be. -/
structure Quoted where
  /-- The greatest value of an escape of two hexadecimal digits. -/
  hexLimit : Nat
  /-- There are escapes for code points. -/
  codePoints : Bool
  /-- Characters beyond ASCII may stand for themselves. -/
  beyondAscii : Bool
  /-- The null character may occur. -/
  null : Bool
deriving Repr

def Quoted.text : Quoted := ⟨0x7f, true, true, true⟩
def Quoted.bytes : Quoted := ⟨0xff, false, false, true⟩
def Quoted.cText : Quoted := ⟨0xff, true, true, false⟩

/-- The digits of a code point escape up to its closing brace. There are at most six; underscores may
    follow the first one. -/
def codePoint? (value count : Nat) : List Char → Option (Nat × List Char)
  | [] => none
  | c :: rest =>
      if c = '_' ∧ 0 < count then codePoint? value count rest
      else if c = '\x7d' ∧ 0 < count then some (value, rest)
      else
        match hexDigit? c with
        | some d => if count < 6 then codePoint? (value * 16 + d) (count + 1) rest else none
        | none => none

/-- The character of a code point, if it has one. -/
def charOf? (n : Nat) : Option Char :=
  if n < 0xD800 ∨ (0xE000 ≤ n ∧ n < 0x110000) then some (Char.ofNat n) else none

/-- The character of a one-letter escape. -/
def simpleEscape? : Char → Option Char
  | 'n' => some '\n'
  | 'r' => some '\r'
  | 't' => some '\t'
  | '\\' => some '\\'
  | '0' => some '\x00'
  | '\x27' => some '\x27'
  | '"' => some '"'
  | _ => none

/-- The character of an escape, after its backslash. -/
def escape? (kind : Quoted) : List Char → Option (Char × List Char)
  | 'x' :: a :: b :: rest => do
      let value := (← hexDigit? a) * 16 + (← hexDigit? b)
      if value ≤ kind.hexLimit ∧ (kind.null ∨ value ≠ 0) then some (Char.ofNat value, rest) else none
  | 'u' :: '\x7b' :: rest => do
      if !kind.codePoints then none
      else
        let (value, rest) ← codePoint? 0 0 rest
        if kind.null ∨ value ≠ 0 then (charOf? value).map (·, rest) else none
  | c :: rest => do
      if c = '0' ∧ !kind.null then none else (simpleEscape? c).map (·, rest)
  | [] => none

/-- Skips the blanks after a line end that a backslash takes away. Something has to follow. -/
def afterContinuation? : List Char → Option (List Char)
  | [] => none
  | '\r' :: '\n' :: rest => afterContinuation? rest
  | c :: rest =>
      if c = '\r' then none
      else if c = ' ' ∨ c = '\t' ∨ c = '\n' then afterContinuation? rest
      else some (c :: rest)

/-- A quoted text up to its closing quote, with its escapes resolved. The fuel bounds the number of
    characters; the length of the text suffices. -/
def quoted? (kind : Quoted) : Nat → List Char → Option (List Char × List Char)
  | 0, _ => none
  | _ + 1, [] => none
  | _ + 1, '"' :: rest => some ([], rest)
  | fuel + 1, '\r' :: '\n' :: rest =>
      (quoted? kind fuel rest).map fun (text, rest) => ('\n' :: text, rest)
  | fuel + 1, '\\' :: '\n' :: rest => (afterContinuation? rest).bind (quoted? kind fuel)
  | fuel + 1, '\\' :: '\r' :: '\n' :: rest => (afterContinuation? rest).bind (quoted? kind fuel)
  | fuel + 1, '\\' :: rest =>
      (escape? kind rest).bind fun (c, rest) =>
        (quoted? kind fuel rest).map fun (text, rest) => (c :: text, rest)
  | fuel + 1, c :: rest =>
      if c = '\r' ∨ (!kind.beyondAscii ∧ 0x7f < c.toNat) ∨ (!kind.null ∧ c = '\x00') then none
      else (quoted? kind fuel rest).map fun (text, rest) => (c :: text, rest)

/-- A raw text up to a quote that its marks follow. -/
def rawBody? (kind : Quoted) (marks : List Char) : List Char → Option (List Char × List Char)
  | [] => none
  | c :: rest =>
      match if c = '"' then stripStart? marks rest else none with
      | some rest => some ([], rest)
      | none =>
          if (c = '\r' ∧ rest.head? ≠ some '\n') ∨ (!kind.beyondAscii ∧ 0x7f < c.toNat) ∨
              (!kind.null ∧ c = '\x00') then none
          else (rawBody? kind marks rest).map fun (text, rest) => (c :: text, rest)

/-- A raw string after its first letters: at most 255 marks, a quote, and the text. -/
def raw? (kind : Quoted) (cs : List Char) : Option (List Char × List Char) :=
  let marks := cs.takeWhile (· = '#')
  match cs.dropWhile (· = '#') with
  | '"' :: rest => if marks.length ≤ 255 then rawBody? kind marks rest else none
  | _ => none

/-- The rest of a text after the suffix of a literal. -/
def skipSuffix (cs : List Char) : List Char :=
  match word? cs with
  | some (_, rest) => rest
  | none => cs

/-- One character in single quotes, after the first of them. -/
def character? (kind : Quoted) : List Char → Option (List Char)
  | '\\' :: rest =>
      match escape? kind rest with
      | some (_, '\x27' :: rest) => some rest
      | _ => none
  | c :: '\x27' :: rest => if !kind.beyondAscii ∧ 0x7f < c.toNat then none else some rest
  | _ => none

/-- A quoted text with its closing quote. -/
def quotedText? (kind : Quoted) (cs : List Char) : Option (List Char × List Char) :=
  quoted? kind (cs.length + 1) cs

/-- A string or character literal. -/
def stringLiteral? : List Char → Option (Literal × List Char)
  | '"' :: rest =>
      (quotedText? .text rest).map fun (text, rest) => (.string (String.ofList text), rest)
  | 'r' :: rest => (raw? .text rest).map fun (text, rest) => (.string (String.ofList text), rest)
  | 'b' :: '"' :: rest => (quotedText? .bytes rest).map fun (_, rest) => (.byteString, rest)
  | 'b' :: 'r' :: rest => (raw? .bytes rest).map fun (_, rest) => (.byteString, rest)
  | 'c' :: '"' :: rest => (quotedText? .cText rest).map fun (_, rest) => (.cString, rest)
  | 'c' :: 'r' :: rest => (raw? .cText rest).map fun (_, rest) => (.cString, rest)
  | 'b' :: '\x27' :: rest => (character? .bytes rest).map (.byte, ·)
  | '\x27' :: rest => (character? .text rest).map (.character, ·)
  | _ => none

/-! ### Numbers -/

/-- The end of the digits of a float before its exponent, and whether there was a point. A point before
    another point or a name belongs to no number. -/
def mantissa? (point : Bool) : List Char → Option (Bool × List Char)
  | [] => some (point, [])
  | c :: rest =>
      if c.isDigit ∨ c = '_' then mantissa? point rest
      else if c = '.' ∧ !point then
        if rest.head?.any fun d => d = '.' || isIdentStart d then none else mantissa? true rest
      else some (point, c :: rest)

/-- The end of an exponent, after its letter. `sign` and `digits` tell what was read. -/
def exponent? (sign digits : Bool) : List Char → Option (List Char)
  | [] => if digits then some [] else none
  | c :: rest =>
      if (c = '+' ∨ c = '-') ∧ !digits then (if sign then none else exponent? true digits rest)
      else if c.isDigit then exponent? sign true rest
      else if c = '_' then exponent? sign digits rest
      else if digits then some (c :: rest)
      else none

/-- The end of a float: it has a point or an exponent. Without digits in the exponent, the number ends
    before it. -/
def floatEnd? (cs : List Char) : Option (List Char) :=
  match mantissa? false cs with
  | none => none
  | some (point, rest) =>
      let before := if point then some rest else none
      match rest with
      | c :: after => if c = 'e' ∨ c = 'E' then (exponent? false false after).or before else before
      | [] => before

/-- The base that the first two characters of an integer state, and the rest. -/
def base : List Char → Nat × List Char
  | '0' :: 'x' :: rest => (16, rest)
  | '0' :: 'o' :: rest => (8, rest)
  | '0' :: 'b' :: rest => (2, rest)
  | cs => (10, cs)

/-- The end of the digits of an integer. A decimal digit that the base lacks is an offence; a letter
    that it lacks ends the digits. -/
def digitsEnd? (base : Nat) (empty : Bool) : List Char → Option (List Char)
  | [] => if empty then none else some []
  | c :: rest =>
      match hexDigit? c with
      | some d =>
          if d < base then digitsEnd? base false rest
          else if c.isDigit ∨ empty then none
          else some (c :: rest)
      | none =>
          if c = '_' then (if empty ∧ base = 10 then none else digitsEnd? base empty rest)
          else if empty then none
          else some (c :: rest)

/-- The end of an integer. -/
def integerEnd? (cs : List Char) : Option (List Char) := digitsEnd? (base cs).1 true (base cs).2

/-- The end of a number with its suffix, after which no word goes on. -/
def numberEnd? (rest : List Char) : Option (List Char) :=
  let rest := skipSuffix rest
  if rest.head?.any isIdentContinue then none else some rest

/-- What was read between a text and one of its ends. -/
def spelling (cs rest : List Char) : String := String.ofList (cs.take (cs.length - rest.length))

/-- A number, which begins with a digit. -/
def number? (cs : List Char) : Option (Literal × List Char) :=
  if cs.head?.any Char.isDigit then
    match (floatEnd? cs).bind numberEnd? with
    | some rest => some (.float (spelling cs rest), rest)
    | none => ((integerEnd? cs).bind numberEnd?).map fun rest => (.integer (spelling cs rest), rest)
  else none

/-- A literal with its suffix. -/
def literal? (cs : List Char) : Option (Literal × List Char) :=
  match stringLiteral? cs with
  | some (literal, rest) => some (literal, skipSuffix rest)
  | none => number? cs

/-! ### Texts -/

/-- A bracket, or a token that is none. -/
inductive Lexeme where
  | opening (delimiter : Delimiter)
  | closing (delimiter : Delimiter)
  | leaf (token : Token)
deriving Repr

/-- A bracket character. -/
def bracket? : Char → Option Lexeme
  | '(' => some (.opening .parenthesis)
  | ')' => some (.closing .parenthesis)
  | '[' => some (.opening .bracket)
  | ']' => some (.closing .bracket)
  | '\x7b' => some (.opening .brace)
  | '\x7d' => some (.closing .brace)
  | _ => none

/-- A token that is no bracket: a literal, else punctuation, else an identifier. -/
def leaf? (cs : List Char) : Option (Token × List Char) :=
  match literal? cs with
  | some (literal, rest) => some (.literal literal, rest)
  | none =>
      match punct? cs with
      | some found => some found
      | none => (ident? cs).map fun (name, rest) => (.ident (String.ofList name), rest)

/-- The lexemes at the beginning of a text that is not empty, and the rest. -/
def step? (c : Char) (rest : List Char) : Option (List Lexeme × List Char) :=
  if isSeparator c then some ([], rest)
  else
    match comment? (c :: rest) with
    | some (.plain, rest) => some ([], rest)
    | some (.documentation placement text, rest) =>
        if hasBareReturn text then none
        else some ((documentationTokens placement text).map .leaf, rest)
    | none =>
        match bracket? c with
        | some lexeme => some ([lexeme], rest)
        | none => (leaf? (c :: rest)).map fun (token, rest) => ([.leaf token], rest)

/-- The lexemes of a text. The fuel bounds the number of steps; the length of the text suffices. -/
def lexemes? : Nat → List Char → Option (List Lexeme)
  | _, [] => some []
  | 0, _ :: _ => none
  | fuel + 1, c :: rest =>
      match step? c rest with
      | none => none
      | some (found, rest) => (lexemes? fuel rest).map (found ++ ·)

/-- The token trees of lexemes, if the brackets match. `above` holds the brackets that are open, the
    last one first, each with the tokens before it; these and `before` are in reverse. -/
def assemble? : List (Delimiter × List Token) → List Token → List Lexeme → Option (List Token)
  | [], before, [] => some before.reverse
  | _ :: _, _, [] => none
  | above, before, .leaf token :: rest => assemble? above (token :: before) rest
  | above, before, .opening delimiter :: rest => assemble? ((delimiter, before) :: above) [] rest
  | (delimiter, outer) :: above, before, .closing found :: rest =>
      if found = delimiter then assemble? above (.group delimiter before.reverse :: outer) rest
      else none
  | [], _, .closing _ :: _ => none

/-- The byte order mark. -/
def byteOrderMark : Char := '\ufeff'

/-- A text without a byte order mark at its beginning. -/
def dropMark : List Char → List Char
  | c :: rest => if c = byteOrderMark then rest else c :: rest
  | [] => []

/-- A text without a first line for the shell, which begins like an attribute without its bracket. -/
def dropShellLine : List Char → List Char
  | '#' :: '!' :: rest =>
      match skipTrivia rest.length rest with
      | '[' :: _ => '#' :: '!' :: rest
      | _ => ('#' :: '!' :: rest).dropWhile (· != '\n')
  | cs => cs

/-- The tokens of a source text. -/
def tokens? (text : String) : Option (List Token) :=
  let cs := dropMark (dropShellLine (dropMark text.toList))
  (lexemes? cs.length cs).bind (assemble? [] [])

end SwaggerDocs.Source.Lexer
