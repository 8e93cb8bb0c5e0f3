/-
Module: SwaggerDocs.Source.TypeNames
Purpose: What a path to a type stands for: a built-in type, one of the containers that every program
  has, or a type of its own.
Main exports: PathSegment, typeOfName, typeOfPath
-/
import SwaggerDocs.Declarations.Basic

namespace SwaggerDocs.Source

/-- One segment of a path, with the types among its arguments. -/
structure PathSegment where
  name : String
  /-- The segment has arguments of any kind. -/
  hasArguments : Bool
  types : List TypeUse
deriving Repr

/-- The built-in type of a name. -/
def primitive? : String → Option Primitive
  | "bool" => some .bool
  | "i8" => some .i8
  | "i16" => some .i16
  | "i32" => some .i32
  | "i64" => some .i64
  | "i128" => some .i128
  | "isize" => some .isize
  | "u8" => some .u8
  | "u16" => some .u16
  | "u32" => some .u32
  | "u64" => some .u64
  | "u128" => some .u128
  | "usize" => some .usize
  | "f32" => some .f32
  | "f64" => some .f64
  | "char" => some .char
  | "String" => some .string
  | "str" => some .string
  | _ => none

/-- The first segments of paths into the standard library. -/
def libraryRoots : List String := ["std", "core", "alloc"]

/-- Names of wrappers around one value. -/
def wrapperNames : List String := ["Option", "Box", "Rc", "Arc", "Cow", "RefCell", "Cell"]

/-- Names of lists and sets. -/
def sequenceNames : List String :=
  ["Vec", "VecDeque", "LinkedList", "HashSet", "BTreeSet", "IndexSet", "BinaryHeap"]

/-- Names of maps. -/
def mappingNames : List String := ["HashMap", "BTreeMap", "IndexMap"]

/-- A container of its argument, if it has one. -/
def container (name : String) (make : TypeUse → TypeUse) : Option TypeUse → TypeUse
  | some argument => make argument
  | none => .unsupported (name ++ " without type argument")

/-- The type of a last segment with the segments before it. A built-in name counts only alone or below
    a root of the standard library; a container counts anywhere. -/
def typeOfName (qualifier : List String) (segment : PathSegment) : TypeUse :=
  let builtIn := if qualifier.head?.all libraryRoots.contains then primitive? segment.name else none
  match builtIn with
  | some kind => .primitive kind
  | none =>
      if segment.name = "Value" ∧ qualifier.getLast? = some "serde_json" then .any
      else if wrapperNames.contains segment.name then
        container segment.name .indirect segment.types.head?
      else if sequenceNames.contains segment.name then
        container segment.name .sequence segment.types.head?
      else if mappingNames.contains segment.name then
        container segment.name .mapping segment.types[1]?
      else .named ⟨segment.name, qualifier⟩

/-- The type of a path. -/
def typeOfPath (segments : List PathSegment) : TypeUse :=
  match segments.getLast? with
  | none => .unsupported "empty path"
  | some last => typeOfName (segments.dropLast.map (·.name)) last

end SwaggerDocs.Source
