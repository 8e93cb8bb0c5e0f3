/-
Module: SwaggerDocs.Source.Grammar.Patterns
Purpose: The grammar of patterns. A pattern has no result; it only has to fit.
Main exports: patternForm, alternatives
-/
import SwaggerDocs.Source.Grammar.Types

namespace SwaggerDocs.Source.Grammar

/-- Patterns with bars between them, and perhaps one before the first. -/
def alternatives (inner : Inner) : TokenReader Unit := do
  discard (optionalPunct "|")
  inner.pattern
  discard (repeatWhile
    (fun tokens => startsPunct "|" tokens && !startsPunct "||" tokens && !startsPunct "|=" tokens) do
      punct "|"
      inner.pattern)

/-- The dots of a range. -/
def rangeDots : TokenReader Unit := do
  if ← optionalPunct "..=" then return ()
  else if ← optionalPunct "..." then return ()
  else punct ".."

/-- The end of a range without an upper bound. -/
def startsRangeEnd (tokens : List Token) : Bool :=
  tokens.isEmpty || startsPunct "|" tokens || startsPunct "=" tokens ||
    (startsPunct ":" tokens && !startsPunct "::" tokens) || startsPunct "," tokens ||
    startsPunct ";" tokens || startsKeyword "if" tokens

/-- A bound of a range, and whether there is one. -/
def rangeBound (inner : Inner) : TokenReader Bool := do
  let tokens ← get
  if startsRangeEnd tokens then return false
  else if startsLiteral tokens then
    literal
    return true
  else if startsKeyword "const" tokens then
    keyword "const"
    discard (group .brace)
    return true
  else
    discard (qualifiedPath inner true)
    return true

/-- A range after its lower bound, if there is one. -/
def optionalRange (inner : Inner) : TokenReader Unit := do
  if startsPunct ".." (← get) then
    rangeDots
    discard (rangeBound inner)

/-- A field of a struct pattern, perhaps with a pattern of its own. The dots for further fields stand
    last. -/
def fieldPattern (inner : Inner) : TokenReader Unit := do
  discard (outerAttributes inner)
  if ← optionalPunct ".." then
    if !(← atEnd) then failure
  else
    let marked ← repeatWhile (startsAny ["box", "ref", "mut"]) word
    match ← get with
    | .literal (.integer _) :: rest =>
        set rest
        punct ":"
        alternatives inner
    | _ =>
        discard ident
        if marked.isEmpty && startsPunct ":" (← get) then
          punct ":"
          alternatives inner

/-- A pattern that begins with a path. -/
def pathPattern (inner : Inner) : TokenReader Unit := do
  let form ← qualifiedPath inner true
  let tokens ← get
  if startsMacroCall tokens && form.isPlain then
    punct "!"
    discard anyGroup
  else if startsGroup .brace tokens then
    discard (inside .brace (terminated (fieldPattern inner)))
  else if startsGroup .parenthesis tokens then
    discard (inside .parenthesis (terminated (alternatives inner)))
  else optionalRange inner

/-- A pattern that binds a name. -/
def namePattern (inner : Inner) : TokenReader Unit := do
  discard (optionalKeyword "ref")
  discard (optionalKeyword "mut")
  if startsKeyword "self" (← get) then keyword "self" else discard ident
  if ← optionalPunct "@" then inner.pattern

/-- The tokens begin with a pattern that begins with a path. -/
def startsPathPattern (tokens : List Token) : Bool :=
  let rest := tokens.drop 1
  (startsIdent tokens && (startsPunct "::" rest || startsPunct "!" rest || startsGroup .brace rest ||
      startsGroup .parenthesis rest || startsPunct ".." rest)) ||
    (startsKeyword "self" tokens && startsPunct "::" rest) || startsPunct "::" tokens ||
    startsPunct "<" tokens || startsAny ["Self", "super", "crate"] tokens

/-- A pattern without alternatives. -/
def patternForm (inner : Inner) : TokenReader Unit := do
  let tokens ← get
  if startsPathPattern tokens then pathPattern inner
  else if startsKeyword "_" tokens then keyword "_"
  else if startsKeyword "box" tokens then
    keyword "box"
    inner.pattern
  else if startsPunct "-" tokens || startsLiteral tokens || startsKeyword "const" tokens then
    if ← rangeBound inner then optionalRange inner else failure
  else if startsAny ["ref", "mut", "self"] tokens || startsIdent tokens then namePattern inner
  else if ← optionalPunct "&" then
    discard (optionalKeyword "mut")
    inner.pattern
  else if startsGroup .parenthesis tokens then
    discard (inside .parenthesis (terminated (alternatives inner)))
  else if startsGroup .bracket tokens then
    discard (inside .bracket (terminated (alternatives inner)))
  else if startsPunct ".." tokens && !startsPunct "..." tokens then
    let closed := startsPunct "..=" tokens
    rangeDots
    let bounded ← rangeBound inner
    if closed && !bounded then failure
  else failure

end SwaggerDocs.Source.Grammar
