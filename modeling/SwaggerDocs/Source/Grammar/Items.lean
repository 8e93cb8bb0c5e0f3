/-
Module: SwaggerDocs.Source.Grammar.Items
Purpose: The grammar of items. Types and functions with their documentation are kept; other items only
  have to fit. The content of function bodies is not looked into, but for the attributes at its
  beginning.
Main exports: Declared, itemsWithin
-/
import SwaggerDocs.Source.FieldOptions
import SwaggerDocs.Source.Grammar.Expressions

namespace SwaggerDocs.Source

/-- What items declare, each kind in the order of the text. -/
structure Declared where
  types : List TypeDeclaration := []
  functions : List FunctionDeclaration := []
deriving Repr

namespace Declared

def append (a b : Declared) : Declared := ⟨a.types ++ b.types, a.functions ++ b.functions⟩

/-- The declarations of several items. -/
def concat (parts : List Declared) : Declared := parts.foldr append {}

/-- One type. -/
def ofType (name : String) (attributes : List Attribute) (shape : Shape) : Declared :=
  { types := [⟨name, documentation attributes, shape⟩] }

/-- One function. -/
def ofFunction (name : String) (attributes : List Attribute) : Declared :=
  { functions := [⟨name, documentation attributes⟩] }

end Declared

namespace Grammar

/-- An identifier, or the mark for none. -/
def identOrBlank : TokenReader String := do
  if startsKeyword "_" (← get) then word else ident

/-- The visibility of an item, and whether one is stated. Parentheses after it belong to it only if
    they restrict it. -/
def visibility : TokenReader Bool := do
  if ← optionalKeyword "pub" then
    match ← get with
    | .group .parenthesis content :: rest =>
        if startsAny ["crate", "self", "super"] content then
          if content.length = 1 then set rest
        else if startsKeyword "in" content then
          set rest
          all (do keyword "in"; discard plainPath) content
    | _ => return true
    return true
  else return false

/-! ### Functions -/

/-- The tokens without a word at their beginning. -/
def dropKeyword (text : String) (tokens : List Token) : List Token :=
  if startsKeyword text tokens then tokens.drop 1 else tokens

/-- The tokens without a convention for calls at their beginning. -/
def dropAbi : List Token → List Token
  | .ident "extern" :: .literal (.string _) :: rest => rest
  | .ident "extern" :: rest => rest
  | tokens => tokens

/-- The tokens without a statement on safety at their beginning. -/
def dropSafety (safe : Bool) (tokens : List Token) : List Token :=
  if safe && startsKeyword "safe" tokens then tokens.drop 1 else dropKeyword "unsafe" tokens

/-- The words before `fn` at the beginning of the tokens are left out. -/
def dropQualifiers (safe : Bool) (tokens : List Token) : List Token :=
  dropAbi (dropSafety safe (dropKeyword "async" (dropKeyword "const" tokens)))

/-- The tokens begin with a function. -/
def startsFunction (safe : Bool) (tokens : List Token) : Bool :=
  startsKeyword "fn" (dropQualifiers safe tokens)

/-- The object that a method is called on. -/
def receiver (inner : Inner) : TokenReader Unit := do
  let reference ← optionalPunct "&"
  if reference then optionalLifetime
  discard (optionalKeyword "mut")
  keyword "self"
  if !reference then
    if ← optionalPunct ":" then discard (inner.type true)

/-- A parameter with a pattern and a type; the last one may have dots for further parameters. -/
def typedParameter (inner : Inner) : TokenReader Unit := do
  let tokens ← get
  if startsIdent tokens && startsPunct "<" (tokens.drop 1) then discard (inner.type true)
  else
    inner.pattern
    punct ":"
    if startsPunct "..." (← get) then variadicEnd else discard (inner.type true)

/-- A parameter of a function, and whether it is the object of a method. -/
def functionParameter (inner : Inner) : TokenReader Bool := do
  discard (outerAttributes inner)
  let tokens ← get
  if startsPunct "..." tokens then
    variadicEnd
    return false
  else
    match (receiver inner).run tokens with
    | some ((), rest) =>
        set rest
        return true
    | none =>
        typedParameter inner
        return false

/-- The parameters of a function. Only the first one can be the object of a method. -/
def functionParameters (inner : Inner) : TokenReader Unit := do
  let parameters ← terminated (functionParameter inner)
  if (parameters.drop 1).any id then failure

/-- A function without its body. The result is its name. -/
def signature (inner : Inner) (safe : Bool) : TokenReader String := do
  set (dropQualifiers safe (← get))
  keyword "fn"
  let name ← ident
  generics inner
  inside .parenthesis (functionParameters inner)
  result inner true
  discard (whereClause inner)
  return name

/-- The attributes at the beginning of a body. -/
def body (inner : Inner) : TokenReader (List Attribute) := do
  let content ← group .brace
  match (innerAttributes inner).run content with
  | some (attributes, _) => return attributes
  | none => failure

/-- A function. Without a body it declares nothing. -/
def functionItem (inner : Inner) (attributes : List Attribute) : TokenReader Declared := do
  let name ← signature inner false
  if ← optionalPunct ";" then return {}
  else return Declared.ofFunction name (attributes ++ (← body inner))

/-- A body, or a semicolon in its place. -/
def bodyOrNone (inner : Inner) : TokenReader Unit := do
  if startsGroup .brace (← get) then discard (body inner) else punct ";"

/-! ### Types -/

/-- A field with a name. It is left out if its options say so. -/
def namedField (inner : Inner) : TokenReader (Option Field) := do
  let attributes ← outerAttributes inner
  let exported ← visibility
  let name ← identOrBlank
  punct ":"
  let tokens ← get
  let use ←
    if name = "_" && (startsKeyword "struct" tokens ||
        (startsKeyword "union" tokens && startsGroup .brace (tokens.drop 1))) then do
      discard word
      discard (group .brace)
      pure (.unsupported "unknown")
    else do pure (← inner.type true).use
  let options := FieldOptions.ofAttributes inner attributes
  return if options.skip then none else some
    { name := plainName name
      exported := exported
      embedded := options.flatten
      key := options.key?
      type := use
      docs := documentation attributes }

/-- Fields with names, in braces. -/
def namedFields (inner : Inner) : TokenReader (List Field) := do
  return (← inside .brace (terminated (namedField inner))).filterMap id

/-- Fields without names, in parentheses. -/
def unnamedFields (inner : Inner) : TokenReader (List TypeUse) :=
  inside .parenthesis (terminated do
    discard (outerAttributes inner)
    discard visibility
    return (← inner.type true).use)

/-- The shape of a struct with fields without names. One field makes it another name for that field's
    type. -/
def tupleShape : List TypeUse → Shape
  | [use] => .alias use
  | uses => .unmappable ("tuple struct with " ++ toString uses.length ++ " fields")

/-- The shape of a struct. -/
def structShape (inner : Inner) : TokenReader Shape := do
  let conditions ← whereClause inner
  let tokens ← get
  if startsGroup .brace tokens then return .struct (← namedFields inner)
  else if !conditions && startsGroup .parenthesis tokens then
    let uses ← unnamedFields inner
    discard (whereClause inner)
    punct ";"
    return tupleShape uses
  else
    punct ";"
    return .struct []

/-- A struct. -/
def structItem (inner : Inner) (attributes : List Attribute) : TokenReader Declared := do
  keyword "struct"
  let name ← ident
  generics inner
  return Declared.ofType name attributes (← structShape inner)

/-- A variant of an enumeration. -/
structure Variant where
  name : String
  hasData : Bool
  options : FieldOptions

/-- A variant. -/
def variant (inner : Inner) : TokenReader Variant := do
  let attributes ← outerAttributes inner
  discard visibility
  let name ← ident
  let tokens ← get
  let hasData := startsGroup .brace tokens || startsGroup .parenthesis tokens
  if startsGroup .brace tokens then discard (namedFields inner)
  else if startsGroup .parenthesis tokens then discard (unnamedFields inner)
  if ← optionalPunct "=" then inner.expression true
  return ⟨plainName name, hasData, FieldOptions.ofAttributes inner attributes⟩

/-- The shape of an enumeration: the names of its variants as they are written. -/
def enumShape (variants : List Variant) : Shape :=
  if variants.any (·.hasData) then .unmappable "enum with data-carrying variants"
  else .enumeration ((variants.filter fun v => !v.options.skip).map fun v =>
    v.options.rename.getD v.name)

/-- An enumeration. -/
def enumItem (inner : Inner) (attributes : List Attribute) : TokenReader Declared := do
  keyword "enum"
  let name ← ident
  generics inner
  discard (whereClause inner)
  return Declared.ofType name attributes
    (enumShape (← inside .brace (terminated (variant inner))))

/-- A union, which is not kept. -/
def unionItem (inner : Inner) : TokenReader Declared := do
  discard word
  discard ident
  generics inner
  discard (whereClause inner)
  discard (namedFields inner)
  return {}

/-- Where conditions may stand in a type item: before its definition, after it, or in either place. -/
structure ConditionPlaces where
  before : Bool
  after : Bool

/-- The tokens begin with what ends the bounds of a type item. -/
def startsDefinition (tokens : List Token) : Bool :=
  startsKeyword "where" tokens || startsPunct "=" tokens || startsPunct ";" tokens

/-- A name for a type, and the type if there is one and no bounds. -/
def typeItem (inner : Inner) (places : ConditionPlaces) : TokenReader (String × Option TypeUse) := do
  keyword "type"
  let name ← ident
  generics inner
  let bounded ← optionalPunct ":"
  if bounded then discard (separated startsDefinition "+" (bound inner false))
  let conditions ← if places.before then whereClause inner else pure false
  let defined ← optionalPunct "="
  let use ← if defined then do pure (some (← inner.type true).use) else pure none
  if places.after && !conditions then discard (whereClause inner)
  punct ";"
  return (name, if bounded then none else use)

/-- A name for a type. Without a definition it declares nothing. -/
def aliasItem (inner : Inner) (attributes : List Attribute) : TokenReader Declared := do
  let (name, use) ← typeItem inner ⟨true, false⟩
  match use with
  | some use => return Declared.ofType name attributes (.alias use)
  | none => return {}

/-! ### Constants, imports and macros -/

/-- A constant. -/
def constItem (inner : Inner) : TokenReader Unit := do
  keyword "const"
  discard identOrBlank
  generics inner
  punct ":"
  discard (inner.type true)
  if ← optionalPunct "=" then inner.expression true
  discard (whereClause inner)
  punct ";"

/-- A static variable, perhaps without a type or a value. -/
def staticItem (inner : Inner) : TokenReader Unit := do
  keyword "static"
  discard (optionalKeyword "mut")
  discard ident
  if ← optionalPunct ":" then
    discard (inner.type true)
    if ← optionalPunct "=" then inner.expression true
  else
    punct "="
    inner.expression true
  punct ";"

/-- A tree of imported names. `root` tells that names in braces may begin with a separator. The fuel
    bounds the depth. -/
def useTree : Nat → Bool → TokenReader Unit
  | 0, _ => failure
  | fuel + 1, root => do
      let tokens ← get
      if startsSegment tokens || startsKeyword "try" tokens then
        discard word
        if ← optionalPunct "::" then useTree fuel false
        else if ← optionalKeyword "as" then discard identOrBlank
      else if ← optionalPunct "*" then return ()
      else
        discard (inside .brace (terminated do
          let leading ← if root then optionalPunct "::" else pure false
          useTree fuel (root && !leading)))

/-- An import. -/
def useItem : TokenReader Unit := do
  keyword "use"
  let leading ← optionalPunct "::"
  useTree (Token.weightAll (← get)) (!leading)
  punct ";"

/-- An imported library. -/
def externCrateItem : TokenReader Unit := do
  keyword "extern"
  keyword "crate"
  if startsKeyword "self" (← get) then keyword "self" else discard ident
  if ← optionalKeyword "as" then discard identOrBlank
  punct ";"

/-- Brackets of a macro call as an item; a semicolon follows them unless they are braces. -/
def macroBrackets : TokenReader Unit := do
  let delimiter ← anyGroup
  if delimiter ≠ .brace then punct ";"

/-- A macro call as an item of a block of items. -/
def innerMacro : TokenReader Unit := do
  discard plainPath
  punct "!"
  macroBrackets

/-- A macro call as an item; a name may stand before its brackets. -/
def macroItem : TokenReader Unit := do
  discard plainPath
  punct "!"
  let tokens ← get
  if startsKeyword "try" tokens then discard word
  else if startsIdent tokens then discard ident
  macroBrackets

/-- The definition of a macro by a keyword. -/
def macroDefinition : TokenReader Unit := do
  keyword "macro"
  discard ident
  if startsGroup .parenthesis (← get) then discard (group .parenthesis)
  discard (group .brace)

/-- The tokens begin with a macro call. -/
def startsMacroPath (tokens : List Token) : Bool :=
  startsIdent tokens || startsAny ["self", "super", "crate"] tokens || startsPunct "::" tokens

/-! ### Traits, implementations and foreign items -/

/-- An item of a trait. -/
def traitMember (inner : Inner) : TokenReader Unit := do
  discard (outerAttributes inner)
  let visible ← visibility
  let default ← optionalKeyword "default"
  let tokens ← get
  if startsFunction false tokens then
    discard (signature inner false)
    bodyOrNone inner
  else if startsKeyword "const" tokens then constItem inner
  else if startsKeyword "type" tokens then discard (typeItem inner ⟨false, true⟩)
  else if !visible && !default && startsMacroPath tokens then innerMacro
  else failure

/-- The tokens begin with what ends the bounds of a trait. -/
def startsTraitBody (tokens : List Token) : Bool :=
  startsKeyword "where" tokens || startsGroup .brace tokens

/-- The tokens begin with what ends the bounds of a name for a trait. -/
def startsTraitEnd (tokens : List Token) : Bool :=
  startsKeyword "where" tokens || startsPunct ";" tokens

/-- A trait. A name for a trait is one too, if neither of the two qualifiers is there. -/
def traitItem (inner : Inner) : TokenReader Unit := do
  let isUnsafe ← optionalKeyword "unsafe"
  let isAuto ← optionalKeyword "auto"
  keyword "trait"
  discard ident
  generics inner
  if !isUnsafe && !isAuto && startsPunct "=" (← get) then
    punct "="
    discard (separated startsTraitEnd "+" (bound inner false))
    discard (whereClause inner)
    punct ";"
  else
    if ← optionalPunct ":" then discard (separated startsTraitBody "+" (bound inner false))
    discard (whereClause inner)
    inside .brace do
      discard (innerAttributes inner)
      discard (repeatWhile (fun tokens => !tokens.isEmpty) (traitMember inner))

/-- An item of a block of foreign items. -/
def foreignMember (inner : Inner) : TokenReader Unit := do
  discard (outerAttributes inner)
  let visible ← visibility
  let tokens ← get
  if startsFunction true tokens then
    discard (signature inner true)
    bodyOrNone inner
  else if startsKeyword "static" tokens ||
      (startsAny ["unsafe", "safe"] tokens && startsKeyword "static" (tokens.drop 1)) then
    set (dropSafety true tokens)
    keyword "static"
    discard (optionalKeyword "mut")
    discard ident
    punct ":"
    discard (inner.type true)
    if ← optionalPunct "=" then inner.expression true
    punct ";"
  else if startsKeyword "type" tokens then discard (typeItem inner ⟨true, true⟩)
  else if !visible && startsMacroPath tokens then innerMacro
  else failure

/-- A block of foreign items. -/
def foreignItem (inner : Inner) : TokenReader Unit := do
  discard (optionalKeyword "unsafe")
  keyword "extern"
  match ← get with
  | .literal (.string _) :: rest => set rest
  | _ => pure ()
  inside .brace do
    discard (innerAttributes inner)
    discard (repeatWhile (fun tokens => !tokens.isEmpty) (foreignMember inner))

/-- An item of an implementation. Only functions with bodies are kept. -/
def implementationMember (inner : Inner) : TokenReader Declared := do
  let attributes ← outerAttributes inner
  let visible ← visibility
  let tokens ← get
  let default := startsKeyword "default" tokens && !startsPunct "!" (tokens.drop 1)
  if default then keyword "default"
  let tokens ← get
  if startsFunction false tokens then functionItem inner attributes
  else if startsKeyword "const" tokens then
    constItem inner
    return {}
  else if startsKeyword "type" tokens then
    discard (typeItem inner ⟨false, true⟩)
    return {}
  else if !visible && !default && startsMacroPath tokens then
    innerMacro
    return {}
  else failure

/-- The tokens after `impl` begin with parameters, and not with a path in angle brackets. -/
def startsParameters (tokens : List Token) : Bool :=
  let second := tokens.drop 1
  let third := tokens.drop 2
  startsPunct "<" tokens &&
    (startsPunct ">" second || startsPunct "#" second || startsKeyword "const" second ||
      ((startsLifetime second || startsIdent second) &&
        (startsPunct ">" third || startsPunct "," third || startsPunct "=" third ||
          (startsPunct ":" third && !startsPunct "::" third))))

/-- An implementation. One with a visibility, a constant one, and one whose trait is no path declare
    nothing. -/
def implementationItem (inner : Inner) (visible : Bool) : TokenReader Declared := do
  discard (optionalKeyword "default")
  discard (optionalKeyword "unsafe")
  keyword "impl"
  if startsParameters (← get) then generics inner
  let tokens ← get
  let constant := startsKeyword "const" tokens ||
    (startsPunct "?" tokens && startsKeyword "const" (tokens.drop 1))
  if constant then
    discard (optionalPunct "?")
    keyword "const"
  let tokens ← get
  if startsPunct "!" tokens && !startsGroup .brace (tokens.drop 1) then punct "!"
  let first ← inner.type true
  let forType ← optionalKeyword "for"
  if forType then discard (inner.type true)
  discard (whereClause inner)
  let members ← inside .brace do
    discard (innerAttributes inner)
    repeatWhile (fun tokens => !tokens.isEmpty) (implementationMember inner)
  let ofTrait := match first.kind with
    | .path _ => true
    | _ => false
  return if visible || constant || (forType && !ofTrait) then {} else Declared.concat members

/-! ### Items -/

/-- A module; the items in its braces are read by `nested`. -/
def moduleItem (inner : Inner) (nested : TokenReader Declared) : TokenReader Declared := do
  discard (optionalKeyword "unsafe")
  keyword "mod"
  if startsKeyword "try" (← get) then discard word else discard ident
  if ← optionalPunct ";" then return {}
  else
    inside .brace do
      discard (innerAttributes inner)
      nested

/-- An item that begins with `extern` and is no function. -/
def externItem (inner : Inner) (visible : Bool) : TokenReader Declared := do
  if startsKeyword "crate" ((← get).drop 1) then externCrateItem
  else if visible then failure
  else foreignItem inner
  return {}

/-- An item that begins with `unsafe` and is no function. -/
def unsafeItem (inner : Inner) (nested : TokenReader Declared) (visible : Bool) :
    TokenReader Declared := do
  let rest := (← get).drop 1
  if startsKeyword "trait" rest ||
      (startsKeyword "auto" rest && startsKeyword "trait" (rest.drop 1)) then
    traitItem inner
    return {}
  else if startsKeyword "impl" rest then implementationItem inner visible
  else if startsKeyword "extern" rest && !visible then
    foreignItem inner
    return {}
  else if startsKeyword "mod" rest then moduleItem inner nested
  else failure

/-- An item that is not kept, of a kind that one word tells. -/
def otherItem (inner : Inner) (visible : Bool) : TokenReader Unit := do
  let tokens ← get
  let rest := tokens.drop 1
  if startsKeyword "use" tokens then useItem
  else if startsKeyword "static" tokens then staticItem inner
  else if startsKeyword "const" tokens then constItem inner
  else if startsKeyword "trait" tokens ||
      (startsKeyword "auto" tokens && startsKeyword "trait" rest) then traitItem inner
  else if startsKeyword "macro" tokens then macroDefinition
  else if !visible && startsMacroPath tokens then macroItem
  else failure

/-- An item. The items of a module in it are read by `nested`. -/
def item (inner : Inner) (nested : TokenReader Declared) : TokenReader Declared := do
  let attributes ← outerAttributes inner
  let visible ← visibility
  let tokens ← get
  if startsFunction false tokens then functionItem inner attributes
  else if startsKeyword "extern" tokens then externItem inner visible
  else if startsKeyword "unsafe" tokens then unsafeItem inner nested visible
  else if startsKeyword "mod" tokens then moduleItem inner nested
  else if startsKeyword "type" tokens then aliasItem inner attributes
  else if startsKeyword "struct" tokens then structItem inner attributes
  else if startsKeyword "enum" tokens then enumItem inner attributes
  else if startsKeyword "union" tokens && startsIdent (tokens.drop 1) then unionItem inner
  else if startsKeyword "impl" tokens ||
      (startsKeyword "default" tokens && !startsPunct "!" (tokens.drop 1)) then
    implementationItem inner visible
  else
    otherItem inner visible
    return {}

/-- Items up to the end, with modules that nest at most to a depth. -/
def itemsWithin (inner : Inner) : Nat → TokenReader Declared
  | 0 => failure
  | depth + 1 => do
      return Declared.concat
        (← repeatWhile (fun tokens => !tokens.isEmpty) (item inner (itemsWithin inner depth)))

end Grammar

end SwaggerDocs.Source
