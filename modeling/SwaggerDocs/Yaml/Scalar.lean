/-
Module: SwaggerDocs.Yaml.Scalar
Purpose: The written form of strings as YAML scalars. A string with a line feed is a literal block if
  it can be, a string that would be read as something else is quoted, and any other string is plain if
  its characters admit it.
Main exports: Scalar.Style, Scalar.style, Scalar.render, Scalar.isSimpleKey
-/
import SwaggerDocs.Yaml.Resolution

namespace SwaggerDocs.Yaml.Scalar

/-- A character that ends a line. -/
def isBreak (c : Char) : Bool :=
  c = '\n' || c = '\r' || c = '\u0085' || c = '\u2028' || c = '\u2029'

/-- A character that can stand in a scalar without an escape. -/
def isPrintable (c : Char) : Bool :=
  c = '\n' || ('\u0020' ≤ c && c ≤ '\u007e') || ('\u00a0' ≤ c && c ≤ '\ufffd' && c ≠ '\ufeff') ||
    0x10000 ≤ c.toNat

/-- Whether the rest of a scalar begins with a blank, a line break or its end. -/
def endsWord : List Char → Bool
  | [] => true
  | c :: _ => c = ' ' || c = '\t' || isBreak c

/-- Characters with a meaning of their own at the beginning of a node. -/
def isIndicator (c : Char) : Bool :=
  ['#', ',', '[', ']', '\x7b', '\x7d', '&', '*', '!', '|', '>', '\x27', '"', '%', '@',
    '\x60'].contains c

/-- The text begins like a document marker. -/
def hasMarkerStart : List Char → Bool
  | '-' :: '-' :: '-' :: _ => true
  | '.' :: '.' :: '.' :: _ => true
  | _ => false

/-- The first character gives the text another meaning. -/
def hasIndicatorStart : List Char → Bool
  | [] => false
  | c :: rest => isIndicator c || ((c = '?' || c = ':' || c = '-') && endsWord rest)

/-- A colon before the end of a word, or a number sign after one, gives the text another meaning.
    `spaced` tells that a blank or line break stands before the text. -/
def hasInnerIndicator (spaced : Bool) : List Char → Bool
  | [] => false
  | c :: rest =>
      (c = ':' && endsWord rest) || (c = '#' && spaced) || hasInnerIndicator (endsWord [c]) rest

/-- Two neighbours of two classes. -/
def hasPair (p q : Char → Bool) : List Char → Bool
  | a :: b :: rest => (p a && q b) || hasPair p q (b :: rest)
  | _ => false

def isSpace (c : Char) : Bool := c = ' '

/-- The text has a character that needs an escape, or blanks that a line break would swallow. -/
def needsEscape (cs : List Char) : Bool :=
  cs.any (fun c => !isPrintable c) || hasPair isSpace isBreak cs

/-- The first or last character is of a class. -/
def hasEnd (p : Char → Bool) (cs : List Char) : Bool :=
  (cs.head?.any fun c => p c) || (cs.getLast?.any fun c => p c)

/-- The text can be written without quotes. -/
def plainAllowed (cs : List Char) : Bool :=
  !hasEnd (fun c => isSpace c || isBreak c) cs && !cs.any isBreak && !needsEscape cs &&
    !hasMarkerStart cs && !hasIndicatorStart cs &&
    match cs with
    | [] => true
    | c :: rest => !hasInnerIndicator (endsWord [c]) rest

/-- The text can be written in single quotes. -/
def singleQuotesAllowed (cs : List Char) : Bool := !needsEscape cs && !hasPair isBreak isSpace cs

/-- The text can be written as a literal block. -/
def literalAllowed (cs : List Char) : Bool :=
  !cs.isEmpty && !needsEscape cs && !(cs.getLast?.any isSpace)

/-- The ways to write a string. -/
inductive Style where
  | plain
  | single
  | double
  | literal
deriving Repr, DecidableEq

/-- The way a string is written. -/
def style (text : String) : Style :=
  let cs := text.toList
  if cs.contains '\n' then (if literalAllowed cs then .literal else .double)
  else if !isOtherThanString text && plainAllowed cs then .plain
  else if singleQuotesAllowed cs then .single
  else .double

/-- Upper-case hexadecimal digits of a fixed number of places. -/
def hexDigits (places n : Nat) : List Char :=
  let digits := (Nat.toDigits 16 n).map Char.toUpper
  List.replicate (places - digits.length) '0' ++ digits

/-- The escape of a character in double quotes. -/
def escape (c : Char) : List Char :=
  '\\' ::
    match c with
    | '\x00' => ['0']
    | '\x07' => ['a']
    | '\x08' => ['b']
    | '\t' => ['t']
    | '\n' => ['n']
    | '\x0b' => ['v']
    | '\x0c' => ['f']
    | '\r' => ['r']
    | '\x1b' => ['e']
    | '"' => ['"']
    | '\\' => ['\\']
    | '\u0085' => ['N']
    | '\u2028' => ['L']
    | '\u2029' => ['P']
    | c =>
        if c.toNat ≤ 0xff then 'x' :: hexDigits 2 c.toNat
        else if c.toNat ≤ 0xffff then 'u' :: hexDigits 4 c.toNat
        else 'U' :: hexDigits 8 c.toNat

/-- A character in double quotes. -/
def doubleChar (c : Char) : List Char :=
  if !isPrintable c || isBreak c || c = '"' || c = '\\' then escape c else [c]

/-- The text in double quotes. -/
def double (cs : List Char) : List Char := '"' :: cs.flatMap doubleChar ++ ['"']

def spaces (n : Nat) : List Char := List.replicate n ' '

/-- Lines after line breaks are indented. `fresh` tells that a line break stands before the text. An
    empty line has no indentation. -/
def indentLines (indent : Nat) (write : Char → List Char) : Bool → List Char → List Char
  | _, [] => []
  | fresh, c :: rest =>
      if isBreak c then c :: indentLines indent write true rest
      else (if fresh then spaces indent else []) ++ write c ++ indentLines indent write false rest

/-- A quote inside single quotes is written twice. -/
def singleChar (c : Char) : List Char := if c = '\x27' then ['\x27', '\x27'] else [c]

/-- The text in single quotes. After a line break at its end, the closing quote is indented. -/
def single (indent : Nat) (cs : List Char) : List Char :=
  '\x27' :: indentLines indent singleChar false cs ++
    (if cs.getLast?.any isBreak then spaces indent else []) ++ ['\x27']

/-- The mark for the line breaks at the end of a literal block: none there, more than one, or
    one. -/
def chomping (cs : List Char) : List Char :=
  match cs.reverse with
  | [] => ['-']
  | [c] => if isBreak c then ['+'] else ['-']
  | c :: d :: _ => if !isBreak c then ['-'] else if isBreak d then ['+'] else []

/-- A block that begins with a blank or a line break states its indentation. -/
def indentationHint (cs : List Char) : List Char :=
  if cs.head?.any fun c => isSpace c || isBreak c then ['2'] else []

/-- The text as a literal block. -/
def literal (indent : Nat) (cs : List Char) : List Char :=
  '|' :: indentationHint cs ++ chomping cs ++ '\n' :: indentLines indent (fun c => [c]) true cs

/-- A string whose further lines are indented by `indent`. -/
def render (indent : Nat) (text : String) : String :=
  String.ofList
    (match style text with
    | .plain => text.toList
    | .single => single indent text.toList
    | .double => double text.toList
    | .literal => literal indent text.toList)

/-- A string that can be a key on the line of its value: one line of at most 128 bytes. -/
def isSimpleKey (text : String) : Bool := !text.toList.any isBreak && text.utf8ByteSize ≤ 128

end SwaggerDocs.Yaml.Scalar
