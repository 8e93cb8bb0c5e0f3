/-
Module: SwaggerDocs.Source.Grammar.Expressions
Purpose: The grammar of expressions. An expression has no result; it only has to fit. The content of
  blocks is not looked into.
Main exports: expressionForm
-/
import SwaggerDocs.Source.Grammar.Patterns

namespace SwaggerDocs.Source.Grammar

/-- A block of statements. -/
def block : TokenReader Unit := discard (group .brace)

/-! ### Operators -/

/-- Comparisons, which cannot be chained. -/
def comparisons : List String := ["==", "!=", "<=", ">=", "<", ">"]

/-- Operators that bind more loosely than comparisons. -/
def looseOperators : List String := ["&&", "||"]

/-- Operators that assign. -/
def assignments : List String := ["<<=", ">>=", "+=", "-=", "*=", "/=", "%=", "^=", "&=", "|="]

/-- Operators that bind more tightly than comparisons. -/
def tightOperators : List String := ["<<", ">>", "+", "-", "*", "/", "%", "^", "&", "|"]

/-- What an operator does to a chain of operands. -/
inductive OperatorKind where
  | assignment
  | loose
  | comparison
  | tight
deriving Repr, DecidableEq

/-- The operators by kind, those of more characters before the shorter ones that begin them. -/
def operators : List (String × OperatorKind) :=
  assignments.map (·, .assignment) ++ looseOperators.map (·, .loose) ++
    [("<<", .tight), (">>", .tight)] ++ comparisons.map (·, .comparison) ++
    tightOperators.map (·, .tight)

/-- The operator that the tokens begin with. -/
def operator? (tokens : List Token) : Option (String × OperatorKind) :=
  match operators.find? fun operator => startsPunct operator.1 tokens with
  | some found => some found
  | none => if startsPunct "=" tokens && !startsPunct "=>" tokens then some ("=", .assignment) else none

/-! ### Operands -/

/-- The tokens begin with an expression, as far as one may be left out. -/
def startsExpression (tokens : List Token) : Bool :=
  (startsWord tokens && !startsKeyword "as" tokens) || startsGroup .parenthesis tokens ||
    startsGroup .bracket tokens || startsGroup .brace tokens || startsLiteral tokens ||
    startsLifetime tokens || startsPunct "#" tokens || startsPunct "::" tokens ||
    startsPunct ".." tokens ||
    (startsPunct "!" tokens && !startsPunct "!=" tokens) ||
    (startsPunct "-" tokens && !startsPunct "-=" tokens && !startsPunct "->" tokens) ||
    (startsPunct "*" tokens && !startsPunct "*=" tokens) ||
    (startsPunct "|" tokens && !startsPunct "|=" tokens) ||
    (startsPunct "&" tokens && !startsPunct "&=" tokens) ||
    (startsPunct "<" tokens && !startsPunct "<=" tokens && !startsPunct "<<=" tokens)

/-- An expression that may be left out. -/
def optionalExpression (inner : Inner) (braces : Bool) : TokenReader Unit := do
  if startsExpression (← get) then inner.expression braces

/-- The name or number of a field, and whether it is a name. -/
def member : TokenReader Bool := do
  match ← get with
  | .literal (.integer _) :: rest =>
      set rest
      return false
  | _ =>
      discard ident
      return true

/-- A field of a struct expression. The struct that gives the other fields stands last. -/
def fieldValue (inner : Inner) : TokenReader Unit := do
  discard (outerAttributes inner)
  if ← optionalPunct ".." then
    if !(← atEnd) then inner.expression true
    if !(← atEnd) then failure
  else
    let named ← member
    if startsPunct ":" (← get) || !named then
      punct ":"
      inner.expression true

/-- A path, a macro call, or a struct expression. -/
def pathExpression (inner : Inner) (braces : Bool) : TokenReader Unit := do
  let form ← qualifiedPath inner true
  let tokens ← get
  if startsMacroCall tokens && form.isPlain then
    punct "!"
    discard anyGroup
  else if braces && startsGroup .brace tokens then
    discard (inside .brace (terminated (fieldValue inner)))

/-- The content of an array expression: items, or an item and a length. -/
def arrayContent (inner : Inner) : TokenReader Unit := do
  if !(← atEnd) then
    inner.expression true
    if ← optionalPunct ";" then inner.expression true
    else if ← optionalPunct "," then discard (terminated (inner.expression true))

/-- A parameter of a closure. -/
def closureParameter (inner : Inner) : TokenReader Unit := do
  discard (outerAttributes inner)
  inner.pattern
  if ← optionalPunct ":" then discard (inner.type true)

/-- A closure. With a result type, its body is a block. -/
def closure (inner : Inner) (braces : Bool) : TokenReader Unit := do
  discard (optionalBinder inner)
  discard (optionalKeyword "const")
  discard (optionalKeyword "static")
  discard (optionalKeyword "async")
  discard (optionalKeyword "move")
  punct "|"
  discard (separated (startsPunct "|") "," (closureParameter inner))
  punct "|"
  if ← optionalPunct "->" then
    discard (inner.type true)
    block
  else inner.expression braces

/-- What follows an `if` with its block. -/
def elseBranches (inner : Inner) : TokenReader Unit := do
  discard (repeatWhile (startsKeyword "else") do
    keyword "else"
    if ← optionalKeyword "if" then inner.expression false
    block)

/-- A loop, or a block. -/
def loopOrBlock (inner : Inner) : TokenReader Unit := do
  if ← optionalKeyword "while" then
    inner.expression false
    block
  else if ← optionalKeyword "for" then
    alternatives inner
    keyword "in"
    inner.expression false
    block
  else if ← optionalKeyword "loop" then block
  else block

/-- The tokens begin with a closure. -/
def startsClosure (tokens : List Token) : Bool :=
  let rest := tokens.drop 1
  startsPunct "|" tokens || startsKeyword "move" tokens || startsKeyword "static" tokens ||
    (startsKeyword "for" tokens && startsPunct "<" rest) ||
    (startsKeyword "const" tokens && !startsGroup .brace rest) ||
    (startsKeyword "async" tokens && !startsGroup .brace rest &&
      !(startsKeyword "move" rest && startsGroup .brace (rest.drop 1)))

/-- An expression that begins with a keyword. -/
def keywordExpression (inner : Inner) (braces : Bool) : TokenReader Unit := do
  let tokens ← get
  if ← optionalKeyword "if" then
    inner.expression false
    block
    elseBranches inner
  else if ← optionalKeyword "match" then
    inner.expression false
    block
  else if startsAny ["while", "for", "loop"] tokens then loopOrBlock inner
  else if ← optionalKeyword "let" then
    alternatives inner
    punct "="
    inner.expression braces
  else if ← optionalKeyword "break" then
    optionalLifetime
    optionalExpression inner braces
  else if ← optionalKeyword "continue" then optionalLifetime
  else if ← optionalKeyword "return" then optionalExpression inner braces
  else if ← optionalKeyword "yield" then optionalExpression inner braces
  else if ← optionalKeyword "become" then inner.expression braces
  else if ← optionalKeyword "async" then
    discard (optionalKeyword "move")
    block
  else if startsAny ["unsafe", "const", "try"] tokens then
    discard word
    block
  else keyword "_"

/-- An expression without operators. -/
def atom (inner : Inner) (braces : Bool) : TokenReader Unit := do
  let tokens ← get
  if startsLiteral tokens then literal
  else if startsClosure tokens then closure inner braces
  else if startsSegment tokens || startsPunct "::" tokens || startsPunct "<" tokens then
    pathExpression inner braces
  else if startsGroup .parenthesis tokens then
    discard (inside .parenthesis (terminated (inner.expression true)))
  else if startsGroup .bracket tokens then inside .bracket (arrayContent inner)
  else if startsGroup .brace tokens then block
  else if startsLifetime tokens then
    lifetime
    punct ":"
    loopOrBlock inner
  else keywordExpression inner braces

/-- The tokens begin with what an operand may be followed by. -/
def startsTrailer (tokens : List Token) : Bool :=
  startsGroup .parenthesis tokens || startsGroup .bracket tokens || startsPunct "?" tokens ||
    (startsPunct "." tokens && !startsPunct ".." tokens)

/-- The numbers of two fields, one of the other, read as one number. -/
def isFieldPair (spelling : String) : Bool :=
  spelling.toList.all fun c => c.isDigit || c = '.'

/-- What an operand is followed by: arguments, an index, a question mark, or a field or method. -/
def trailer (inner : Inner) : TokenReader Unit := do
  let tokens ← get
  if startsGroup .parenthesis tokens then
    discard (inside .parenthesis (terminated (inner.expression true)))
  else if startsGroup .bracket tokens then inside .bracket (inner.expression true)
  else if ← optionalPunct "?" then return ()
  else
    punct "."
    match ← get with
    | .literal (.float spelling) :: rest => if isFieldPair spelling then set rest else failure
    | tokens =>
        if startsKeyword "await" tokens then keyword "await"
        else
          let named ← member
          if named && startsPunct "::" (← get) then
            discard (angleArguments inner)
            if !startsGroup .parenthesis (← get) then failure

/-- The tokens begin with a mark before an operand. -/
def startsOperandMark (tokens : List Token) : Bool :=
  startsPunct "&" tokens || startsPunct "*" tokens || startsPunct "!" tokens ||
    startsPunct "-" tokens || startsPunct "#" tokens

/-- A mark before an operand: a sign, a reference, or an attribute. -/
def operandMark (inner : Inner) : TokenReader Unit := do
  if startsPunct "#" (← get) then
    punct "#"
    discard (inside .bracket (attributeContent inner))
  else if ← optionalPunct "&" then
    let tokens ← get
    if startsKeyword "raw" tokens && startsAny ["mut", "const"] (tokens.drop 1) then
      keyword "raw"
      discard word
    else discard (optionalKeyword "mut")
  else discard anyToken

/-- An operand with its marks and trailers. -/
def operand (inner : Inner) (braces : Bool) : TokenReader Unit := do
  discard (repeatWhile startsOperandMark (operandMark inner))
  atom inner braces
  discard (repeatWhile startsTrailer (trailer inner))

/-! ### Chains of operands -/

/-- The end of a half-open range without an upper bound. -/
def startsOpenEnd (braces : Bool) (tokens : List Token) : Bool :=
  tokens.isEmpty || (!braces && startsGroup .brace tokens) || startsKeyword "as" tokens ||
    (startsPunct "." tokens && !startsPunct ".." tokens) ||
    [",", ";", "?", "=>", "=", "+", "/", "%", "^", ">", "<=", "!=", "-=", "*=", "&=", "|=", "<<="].any
      fun text => startsPunct text tokens

/-- The dots of a range between operands. -/
def operandDots : TokenReader Unit := do
  if startsPunct "..." (← get) then failure
  rangeDots

/-- The operands after a first one. `compared` tells that a comparison stands before the last operand,
    and `tight` that neither a range nor an assignment may follow. The fuel bounds the number of
    operators. -/
def operands (inner : Inner) (braces : Bool) : Nat → Bool → Bool → TokenReader Unit
  | 0, _, _ => return ()
  | fuel + 1, tight, compared => do
      let tokens ← get
      if startsPunct ".." tokens then
        if tight then return ()
        else
          let halfOpen := !startsPunct "..=" tokens
          operandDots
          if halfOpen && startsOpenEnd braces (← get) then return ()
          else
            operand inner braces
            operands inner braces fuel true false
      else if startsKeyword "as" tokens then
        keyword "as"
        discard (inner.type false)
        operands inner braces fuel tight compared
      else
        match operator? tokens with
        | none => return ()
        | some (text, kind) =>
            if kind = .assignment && tight then return ()
            else if kind = .comparison && compared then failure
            else
              punct text
              operand inner braces
              operands inner braces fuel tight
                (match kind with
                  | .comparison => true
                  | .tight => compared
                  | _ => false)

/-- An expression. `braces` tells whether braces after a path belong to it. -/
def expressionForm (inner : Inner) (braces : Bool) : TokenReader Unit := do
  let tokens ← get
  if startsPunct ".." tokens then
    let halfOpen := !startsPunct "..=" tokens
    operandDots
    if halfOpen && startsOpenEnd braces (← get) then return ()
    else
      operand inner braces
      operands inner braces tokens.length true false
  else
    operand inner braces
    operands inner braces tokens.length false false

end SwaggerDocs.Source.Grammar
