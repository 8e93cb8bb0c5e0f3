/-
Module: SwaggerDocs.Source.Grammar.Types
Purpose: The grammar of attributes, paths, type parameters and types. Types, expressions and patterns
  contain each other, so each rule takes readers for the parts one level further in.
Main exports: Inner, TypeForm, outerAttributes, path, generics, whereClause, typeForm
-/
import SwaggerDocs.Source.Attribute
import SwaggerDocs.Source.Grammar.Basic
import SwaggerDocs.Source.TypeNames

namespace SwaggerDocs.Source

/-- What kind of type was read, as far as what may follow depends on it. -/
inductive TypeKind where
  /-- A path; one that is a single segment may be given a value or a bound as an argument. -/
  | path (single : Bool)
  /-- Bounds without a leading keyword; one bound in brackets may go on with more. -/
  | bounds (single : Bool)
  | other
deriving Repr, DecidableEq

/-- A type that was read. -/
structure TypeForm where
  use : TypeUse
  kind : TypeKind := .other
deriving Repr

/-- A path that was read. -/
structure PathForm where
  /-- The path begins with a type in angle brackets. -/
  qualified : Bool
  /-- The path begins with a separator. -/
  leading : Bool
  segments : List PathSegment
deriving Repr

/-- A path of names alone, which can be that of a macro. -/
def PathForm.isPlain (path : PathForm) : Bool :=
  !path.qualified && path.segments.all fun segment => !segment.hasArguments

/-- Readers for the parts of a rule. -/
structure Inner where
  /-- Reads a type. The argument tells whether bounds may follow with a plus sign. -/
  type : Bool → TokenReader TypeForm
  /-- Reads a bound, and tells whether it is a trait. -/
  bound : TokenReader Bool
  /-- Reads an expression. The argument tells whether braces after a path belong to it. -/
  expression : Bool → TokenReader Unit
  /-- Reads a pattern without alternatives. -/
  pattern : TokenReader Unit

namespace Grammar

/-! ### Attributes -/

/-- A path of plain segments; a leading separator gives an empty name at the beginning. -/
def plainPath : TokenReader (List String) := do
  let leading ← optionalPunct "::"
  let segments ← chain (fun _ => false) "::"
    (do if startsSegment (← get) then word else failure)
  return if leading then "" :: segments else segments

/-- The name of a path that is one identifier. -/
def nameOfPath : List String → Option String
  | [name] => some name
  | _ => none

/-- The path at the beginning of an attribute. -/
def attributePath : TokenReader (List String) := do
  if ← optionalKeyword "unsafe" then return ["unsafe"] else plainPath

/-- The value of an attribute: a literal alone, or an expression. An attribute is no value. -/
def attributeValue (inner : Inner) : TokenReader AttributeBody := do
  match ← get with
  | [.literal (.string text)] =>
      set ([] : List Token)
      return .text text
  | tokens =>
      if startsPunct "#" tokens && startsGroup .bracket (tokens.drop 1) then failure
      inner.expression true
      return .value

/-- What follows the path of an attribute. -/
def attributeBody (inner : Inner) : TokenReader AttributeBody := do
  match ← get with
  | .group _ tokens :: rest =>
      set rest
      return .arguments tokens
  | _ => if ← optionalPunct "=" then attributeValue inner else return .nothing

/-- The content of an attribute. -/
def attributeContent (inner : Inner) : TokenReader Attribute := do
  let path ← attributePath
  let body ← attributeBody inner
  return ⟨nameOfPath path, body⟩

/-- Attributes of what follows them. -/
def outerAttributes (inner : Inner) : TokenReader (List Attribute) :=
  repeatWhile (startsPunct "#") do
    punct "#"
    inside .bracket (attributeContent inner)

/-- The tokens begin with an attribute of what they stand in. -/
def startsInnerAttribute (tokens : List Token) : Bool :=
  startsPunct "#" tokens && startsPunct "!" (tokens.drop 1)

/-- Attributes of what they stand in. -/
def innerAttributes (inner : Inner) : TokenReader (List Attribute) :=
  repeatWhile startsInnerAttribute do
    punct "#"
    punct "!"
    inside .bracket (attributeContent inner)

/-! ### Paths -/

/-- An argument that is an expression: a literal, a name or a block. -/
def constArgument : TokenReader Unit := do
  let tokens ← get
  if startsLiteral tokens then literal
  else if startsIdent tokens then discard ident
  else discard (group .brace)

/-- The end of a list of arguments or parameters. -/
def startsClosing (tokens : List Token) : Bool := startsPunct ">" tokens

/-- The end of an argument. -/
def startsArgumentEnd (tokens : List Token) : Bool := startsPunct "," tokens || startsClosing tokens

/-- An argument of a path; it has a value if it is a type. -/
def pathArgument (inner : Inner) : TokenReader (Option TypeUse) := do
  let tokens ← get
  if startsLifetime tokens && !startsPunct "+" (tokens.drop 1) then
    lifetime
    return none
  else if startsLiteral tokens || startsGroup .brace tokens then
    constArgument
    return none
  else
    let form ← inner.type true
    if form.kind ≠ .path true then return some form.use
    else if ← optionalPunct "=" then
      let tokens ← get
      if startsLiteral tokens || startsGroup .brace tokens then constArgument
      else discard (inner.type true)
      return none
    else if ← optionalPunct ":" then
      discard (chain startsArgumentEnd "+" inner.bound)
      return none
    else return some form.use

/-- Arguments in angle brackets. The result are the types among them. -/
def angleArguments (inner : Inner) : TokenReader (List TypeUse) := do
  discard (optionalPunct "::")
  punct "<"
  let arguments ← separated startsClosing "," (pathArgument inner)
  punct ">"
  return arguments.filterMap id

/-- The tokens begin with arguments in angle brackets. In an expression, these need a separator. -/
def startsArguments (inExpression : Bool) (tokens : List Token) : Bool :=
  (!inExpression && startsPunct "<" tokens && !startsPunct "<=" tokens) ||
    (startsPunct "::" tokens && startsPunct "<" (tokens.drop 2))

/-- One segment of a path. -/
def pathSegment (inner : Inner) (inExpression : Bool) : TokenReader PathSegment := do
  if startsAny ["super", "self", "crate", "try"] (← get) then
    return ⟨← word, false, []⟩
  else
    let name ← if startsKeyword "Self" (← get) then word else ident
    if startsArguments inExpression (← get) then
      return ⟨name, true, ← angleArguments inner⟩
    else return ⟨name, false, []⟩

/-- The tokens begin with a separator and another segment. -/
def startsNextSegment (tokens : List Token) : Bool :=
  startsPunct "::" tokens && !startsGroup .parenthesis (tokens.drop 2)

/-- A path. -/
def path (inner : Inner) (inExpression : Bool) : TokenReader PathForm := do
  let leading ← optionalPunct "::"
  let first ← pathSegment inner inExpression
  let rest ← repeatWhile startsNextSegment do
    punct "::"
    pathSegment inner inExpression
  return ⟨false, leading, first :: rest⟩

/-- A path that may begin with a type in angle brackets, perhaps as a trait. -/
def qualifiedPath (inner : Inner) (inExpression : Bool) : TokenReader PathForm := do
  if ← optionalPunct "<" then
    discard (inner.type true)
    let trait ←
      if ← optionalKeyword "as" then do pure (← path inner false).segments
      else pure []
    punct ">"
    punct "::"
    let rest ← chain (fun _ => false) "::" (pathSegment inner inExpression)
    return ⟨true, true, trait ++ rest⟩
  else path inner inExpression

/-! ### Bounds and type parameters -/

/-- Lifetimes that a type or bound is stated for. -/
def optionalBinder (inner : Inner) : TokenReader Bool := do
  if ← optionalKeyword "for" then
    punct "<"
    discard (separated startsClosing "," do
      discard (outerAttributes inner)
      lifetime
      if ← optionalPunct ":" then discard (chain startsArgumentEnd "+" lifetime))
    punct ">"
    return true
  else return false

/-- The result type of a function, if it has one. -/
def result (inner : Inner) (plus : Bool) : TokenReader Unit := do
  if ← optionalPunct "->" then discard (inner.type plus)

/-- The parameter and result types of a trait for functions. -/
def functionArguments (inner : Inner) : TokenReader Unit := do
  discard (inside .parenthesis (terminated (inner.type true)))
  result inner false

/-- A mark for bounds that hold in constant contexts. -/
def optionalConstMark : TokenReader Unit := do
  if startsGroup .bracket (← get) then inside .bracket (keyword "const")
  else if ← optionalPunct "~" then keyword "const"
  else discard (optionalKeyword "const")

/-- A trait as a bound. -/
def traitBound (inner : Inner) : TokenReader Unit := do
  let bound ← optionalBinder inner
  optionalConstMark
  let relaxed ← optionalPunct "?"
  if relaxed && !bound then discard (optionalBinder inner)
  let form ← path inner false
  let tokens ← get
  if form.segments.getLast?.all (fun segment => !segment.hasArguments) then
    if startsGroup .parenthesis tokens then functionArguments inner
    else if startsPunct "::" tokens && startsGroup .parenthesis (tokens.drop 2) then
      punct "::"
      functionArguments inner

/-- The names that a type may capture. -/
def capturedNames : TokenReader Unit := do
  keyword "use"
  punct "<"
  discard (separated startsClosing "," do
    if startsLifetime (← get) then lifetime else discard word)
  punct ">"

/-- A bound, which is a lifetime, a trait, or where it is allowed a list of captured names. -/
def bound (inner : Inner) (captures : Bool) : TokenReader Bool := do
  let tokens ← get
  if startsLifetime tokens then
    lifetime
    return false
  else if startsKeyword "use" tokens then
    if captures then capturedNames else failure
    return false
  else if startsGroup .parenthesis tokens then
    inside .parenthesis (traitBound inner)
    return true
  else
    traitBound inner
    return true

/-- The tokens begin with another bound. -/
def startsBound (tokens : List Token) : Bool :=
  startsWord tokens || startsPunct "::" tokens || startsPunct "?" tokens || startsLifetime tokens ||
    startsGroup .parenthesis tokens

/-- The bounds after a plus sign. A plus sign may stand at the end. -/
def furtherBounds (inner : Inner) (captures : Bool) : TokenReader (List Bool) :=
  chain (fun tokens => !startsBound tokens) "+" (bound inner captures)

/-- Bounds of which at least one is a trait. Without a plus sign there is one bound only. -/
def boundList (inner : Inner) (plus captures : Bool) : TokenReader Unit := do
  let first ← bound inner captures
  let more ← if plus then optionalPunct "+" else pure false
  let rest ← if more then furtherBounds inner captures else pure []
  if first || rest.any id then return () else failure

/-- The end of the bounds of a type parameter. -/
def startsParameterEnd (tokens : List Token) : Bool :=
  startsArgumentEnd tokens || startsPunct "=" tokens

/-- A parameter that is a type. -/
def typeParameter (inner : Inner) : TokenReader Unit := do
  discard ident
  if ← optionalPunct ":" then discard (chain startsParameterEnd "+" (bound inner false))
  if ← optionalPunct "=" then discard (inner.type true)

/-- A parameter that is a constant. -/
def constParameter (inner : Inner) : TokenReader Unit := do
  keyword "const"
  discard ident
  punct ":"
  discard (inner.type true)
  if ← optionalPunct "=" then constArgument

/-- A parameter that is a lifetime. -/
def lifetimeParameter : TokenReader Unit := do
  lifetime
  if ← optionalPunct ":" then discard (chain startsArgumentEnd "+" lifetime)

/-- A parameter in angle brackets. -/
def parameter (inner : Inner) : TokenReader Unit := do
  discard (outerAttributes inner)
  let tokens ← get
  if startsLifetime tokens then lifetimeParameter
  else if startsIdent tokens then typeParameter inner
  else if startsKeyword "const" tokens then constParameter inner
  else keyword "_"

/-- Parameters in angle brackets, if there are any. -/
def generics (inner : Inner) : TokenReader Unit := do
  if ← optionalPunct "<" then
    discard (separated startsClosing "," (parameter inner))
    punct ">"

/-- The end of a condition. -/
def startsConditionEnd (tokens : List Token) : Bool :=
  tokens.isEmpty || startsGroup .brace tokens || startsPunct "," tokens || startsPunct ";" tokens ||
    (startsPunct ":" tokens && !startsPunct "::" tokens) || startsPunct "=" tokens

/-- A condition on a lifetime or a type. -/
def condition (inner : Inner) : TokenReader Unit := do
  let tokens ← get
  if startsLifetime tokens && startsPunct ":" (tokens.drop 1) then
    lifetime
    punct ":"
    discard (chain startsConditionEnd "+" lifetime)
  else
    discard (optionalBinder inner)
    discard (inner.type true)
    punct ":"
    discard (chain startsConditionEnd "+" (bound inner false))

/-- Conditions on parameters, if there are any. -/
def whereClause (inner : Inner) : TokenReader Bool := do
  if ← optionalKeyword "where" then
    discard (chain startsConditionEnd "," (condition inner))
    return true
  else return false

/-! ### Types -/

/-- A convention for calls. -/
def optionalAbi : TokenReader Unit := do
  if ← optionalKeyword "extern" then
    match ← get with
    | .literal (.string _) :: _ => discard stringLiteral
    | _ => return ()

/-- The end of a parameter list: dots, perhaps with a comma after them, and nothing more. -/
def variadicEnd : TokenReader Unit := do
  punct "..."
  discard (optionalPunct ",")
  if !(← atEnd) then failure

/-- A parameter of a function type, perhaps with a name. -/
def typeOfParameter (inner : Inner) : TokenReader Unit := do
  discard (outerAttributes inner)
  let tokens ← get
  if startsPunct "..." tokens then variadicEnd
  else if startsKeyword "mut" tokens && startsKeyword "self" (tokens.drop 1) then
    keyword "mut"
    keyword "self"
    if ← optionalPunct ":" then discard (inner.type true)
  else
    if (startsIdent tokens || startsAny ["_", "self"] tokens) && startsPunct ":" (tokens.drop 1) &&
        !startsPunct "::" (tokens.drop 1) then
      discard word
      punct ":"
    if startsPunct "..." (← get) then variadicEnd else discard (inner.type true)

/-- A function type. -/
def functionType (inner : Inner) : TokenReader TypeForm := do
  discard (optionalBinder inner)
  discard (optionalKeyword "unsafe")
  optionalAbi
  keyword "fn"
  discard (inside .parenthesis (terminated (typeOfParameter inner)))
  result inner false
  return ⟨.unsupported "fn pointer", .other⟩

/-- What stands in parentheses where a type is expected. -/
inductive Parenthesized where
  | unit
  | tuple
  /-- Bounds that begin with a lifetime. -/
  | object
  /-- A relaxed bound. -/
  | relaxed
  | one (form : TypeForm)
deriving Repr

/-- The content of parentheses. -/
def parenthesized (inner : Inner) : TokenReader Parenthesized := do
  let tokens ← get
  if tokens.isEmpty then return .unit
  else if startsLifetime tokens then
    boundList inner true false
    return .object
  else if startsPunct "?" tokens then
    traitBound inner
    return .relaxed
  else
    let form ← inner.type true
    if ← optionalPunct "," then
      discard (terminated (inner.type true))
      return .tuple
    else return .one form

/-- More bounds after a first one. -/
def moreBounds (inner : Inner) : TokenReader TypeForm := do
  let rest ← repeatWhile (startsPunct "+") do
    punct "+"
    bound inner false
  return ⟨.any, .bounds rest.isEmpty⟩

/-- A type in parentheses, or a tuple. -/
def parenthesizedType (inner : Inner) (plus : Bool) : TokenReader TypeForm := do
  match ← inside .parenthesis (parenthesized inner) with
  | .unit => return ⟨.unsupported "unit", .other⟩
  | .tuple => return ⟨.unsupported "tuple", .other⟩
  | .object => return ⟨.any, .other⟩
  | .relaxed => moreBounds inner
  | .one form =>
      if plus && startsPunct "+" (← get) then
        match form.kind with
        | .path _ => moreBounds inner
        | .bounds true => moreBounds inner
        | _ => return ⟨form.use, .other⟩
      else return ⟨form.use, .other⟩

/-- The bounds after a first one that is a path. -/
def pathBounds (inner : Inner) (plus : Bool) : TokenReader TypeForm := do
  let more ← if plus then optionalPunct "+" else pure false
  if more then discard (furtherBounds inner false)
  return ⟨.any, .bounds !more⟩

/-- The tokens begin with the brackets of a macro. -/
def startsMacroCall (tokens : List Token) : Bool :=
  startsPunct "!" tokens && !startsPunct "!=" tokens

/-- A type that begins with a path. `binder` tells that lifetimes stand before it. -/
def pathType (inner : Inner) (plus binder : Bool) : TokenReader TypeForm := do
  let form ← qualifiedPath inner false
  let use := typeOfPath form.segments
  if form.qualified then return ⟨use, .other⟩
  else
    let tokens ← get
    if startsMacroCall tokens && form.isPlain then
      punct "!"
      discard anyGroup
      return ⟨.unsupported "macro", .other⟩
    else if binder || (plus && startsPunct "+" tokens) then pathBounds inner plus
    else return ⟨use, .path (!form.leading && form.segments.length = 1)⟩

/-- An array or slice type. -/
def listType (inner : Inner) : TokenReader TypeForm :=
  inside .bracket do
    let item ← inner.type true
    if ← optionalPunct ";" then inner.expression true
    return ⟨.sequence item.use, .other⟩

/-- A pointer type, which states whether its target can change. -/
def pointerType (inner : Inner) : TokenReader TypeForm := do
  punct "*"
  if !(← optionalKeyword "const") then keyword "mut"
  return ⟨.indirect (← inner.type false).use, .other⟩

/-- A reference type. -/
def referenceType (inner : Inner) : TokenReader TypeForm := do
  punct "&"
  optionalLifetime
  discard (optionalKeyword "mut")
  return ⟨.indirect (← inner.type false).use, .other⟩

/-- A type of any value that meets bounds. -/
def objectType (inner : Inner) (plus : Bool) : TokenReader TypeForm := do
  keyword "dyn"
  let starred ← optionalPunct "*"
  boundList inner plus false
  return ⟨if starred then .unsupported "unknown" else .any, .other⟩

/-- The tokens begin with what can follow lifetimes in a type. -/
def startsBoundType (tokens : List Token) : Bool :=
  startsSegment tokens || startsAny ["fn", "unsafe", "extern"] tokens

/-- A type that begins with a keyword, punctuation or a lifetime. -/
def markedType (inner : Inner) (plus : Bool) : TokenReader TypeForm := do
  let tokens ← get
  if startsKeyword "dyn" tokens then objectType inner plus
  else if startsGroup .bracket tokens then listType inner
  else if startsPunct "*" tokens then pointerType inner
  else if startsPunct "&" tokens then referenceType inner
  else if startsPunct "!" tokens then
    punct "!"
    return ⟨.unsupported "never", .other⟩
  else if startsKeyword "impl" tokens then
    keyword "impl"
    boundList inner plus true
    return ⟨.any, .other⟩
  else if startsKeyword "_" tokens then
    keyword "_"
    return ⟨.unsupported "inferred", .other⟩
  else if startsLifetime tokens then
    boundList inner true false
    return ⟨.any, .bounds false⟩
  else failure

/-- A type. -/
def typeForm (inner : Inner) (plus : Bool) : TokenReader TypeForm := do
  let binder ← optionalBinder inner
  let tokens ← get
  if binder && !startsBoundType tokens then failure
  if startsGroup .parenthesis tokens then parenthesizedType inner plus
  else if startsAny ["fn", "unsafe", "extern"] tokens then functionType inner
  else if startsSegment tokens || startsPunct "::" tokens || startsPunct "<" tokens then
    pathType inner plus binder
  else markedType inner plus

end Grammar

end SwaggerDocs.Source
