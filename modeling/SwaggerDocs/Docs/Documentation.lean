/-
Module: SwaggerDocs.Docs.Documentation
Purpose: Documentation blocks: their free text, the component that they declare, and the info block
  of a document that they describe.
Main exports: Documentation, Documentation.text, Documentation.componentId?, Info, Info.derive?
-/
import SwaggerDocs.Docs.Directive.Parser

namespace SwaggerDocs

open Text

/-- The lines of a documentation block, directives and prose mixed. -/
structure Documentation where
  lines : List String
deriving Repr, DecidableEq, Inhabited

namespace Documentation

/-- A block without lines. -/
def empty : Documentation := ⟨[]⟩

def isEmpty (docs : Documentation) : Bool := docs.lines.isEmpty

/-- The prose lines of a block, trimmed on the right. -/
def prose (docs : Documentation) : List (List Char) :=
  (docs.lines.filter fun line => !Directive.isDirectiveLine line).map fun line =>
    trimEnd line.toList

/-- Drops blank lines at the beginning and writes one empty line for each run of blank lines before
    another line. `pending` tells that blank lines after some text wait for the next one. -/
def collapse : Bool → List (List Char) → List (List Char)
  | _, [] => []
  | pending, [] :: rest => collapse pending rest
  | pending, line :: rest =>
      if pending then [] :: line :: collapseAfter rest else line :: collapseAfter rest
where
  /-- `collapse` after a line of text: the next blank line starts a run. -/
  collapseAfter : List (List Char) → List (List Char)
    | [] => []
    | [] :: rest => collapse true rest
    | line :: rest => line :: collapseAfter rest

/-- The lines of the free text: no directives, no blank lines at either end, and single empty lines
    between paragraphs. -/
def textLines (docs : Documentation) : List (List Char) := collapse false docs.prose

/-- The free text of a block. -/
def text (docs : Documentation) : String :=
  String.ofList (['\n'].intercalate docs.textLines)

/-- The free text, unless it is empty. -/
def text? (docs : Documentation) : Option String :=
  if docs.text.isEmpty then none else some docs.text

/-- The identifier of a component, from the last line that declares one. -/
def componentId? (docs : Documentation) : Option String :=
  (docs.lines.filterMap fun line =>
    match Directive.parseSchema? line with
    | some (.component id) => some id
    | _ => none).getLast?

/-- The version of the last info directive. -/
def version? (docs : Documentation) : Option String :=
  (docs.lines.filterMap fun line =>
    (Directive.parseSpec? line).map fun (.info version) => version).getLast?

end Documentation

/-- The info block of a document. -/
structure Info where
  title : String
  description : Option String
  version : String
deriving Repr, DecidableEq

namespace Info

/-- The title where a block has an info directive and no text. -/
def missingTitle : String := "not found"

/-- The text without a marker `Package <name> ` at its beginning. -/
def withoutPackage (cs : List Char) : List Char :=
  match (stripStart? "Package ".toList cs).bind nonBlank? with
  | some (_, ' ' :: rest) => rest
  | _ => cs

/-- The first line of a text and what follows its end. -/
def splitLine (cs : List Char) : List Char × List Char :=
  (cs.takeWhile (· != '\n'), (cs.dropWhile (· != '\n')).drop 1)

/-- The info block that a free text describes: its first line is the title and the rest the
    description. -/
def ofText (version text : String) : Info :=
  let (first, rest) := splitLine (withoutPackage text.toList)
  let title := trim first
  let description := trim rest
  { title := if title.isEmpty then missingTitle else String.ofList title
    description := if description.isEmpty then none else some (String.ofList description)
    version := version }

/-- The info block of a documentation block that has an info directive. -/
def derive? (docs : Documentation) : Option Info :=
  docs.version?.map fun version => ofText version docs.text

end Info

end SwaggerDocs
