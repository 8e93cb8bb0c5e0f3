/-
Module: SwaggerDocs.Json.Basic
Purpose: JSON values. A number is an integer or a double, and the two never mix; the members of an
  object stand in the order in which they are written.
Main exports: Json, Json.Number, Json.same
-/
import SwaggerDocs.Decimal.Double

namespace SwaggerDocs

/-- A JSON number. -/
inductive Json.Number where
  | integer (value : Int)
  | double (value : Double)
deriving Repr, DecidableEq

/-- A JSON value. -/
inductive Json where
  | null
  | bool (value : Bool)
  | number (value : Json.Number)
  | string (value : String)
  | array (items : List Json)
  | object (members : List (String × Json))
deriving Repr, Inhabited

namespace Json

/-- Numbers are the same if they are of one kind and have equal values. -/
def Number.same : Number → Number → Bool
  | .integer a, .integer b => a = b
  | .double a, .double b => a.same b
  | _, _ => false

mutual

/-- Two values are the same up to the sign of a zero. -/
def same : Json → Json → Bool
  | .null, .null => true
  | .bool a, .bool b => a = b
  | .number a, .number b => a.same b
  | .string a, .string b => a = b
  | .array a, .array b => sameItems a b
  | .object a, .object b => sameMembers a b
  | _, _ => false

/-- `same` on lists of items. -/
def sameItems : List Json → List Json → Bool
  | [], [] => true
  | a :: as, b :: bs => same a b && sameItems as bs
  | _, _ => false

/-- `same` on lists of members, whose names have to agree. -/
def sameMembers : List (String × Json) → List (String × Json) → Bool
  | [], [] => true
  | (k, a) :: as, (l, b) :: bs => decide (k = l) && same a b && sameMembers as bs
  | _, _ => false

end

/-- A number is in the range of one of the two integer kinds: signed or unsigned 64-bit words. -/
def inIntegerRange (n : Int) : Bool := -(Nat.pow 2 63 : Int) ≤ n && n < (Nat.pow 2 64 : Int)

end Json

end SwaggerDocs
