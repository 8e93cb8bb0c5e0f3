/-
Module: SwaggerDocs.Swagger.Vocabulary
Purpose: The small fixed vocabularies of Swagger 2.0 documents: methods, places of parameters, and
  the keys of responses.
Main exports: HttpMethod, ParameterLocation, ResponseKey
-/
import SwaggerDocs.Text.Lines

namespace SwaggerDocs

/-- The methods that a path can bind. -/
inductive HttpMethod where
  | get
  | put
  | post
  | delete
  | options
  | head
  | patch
deriving Repr, DecidableEq, Inhabited

namespace HttpMethod

/-- All methods, in the order in which a path lists its operations. -/
def all : List HttpMethod := [.get, .put, .post, .delete, .options, .head, .patch]

/-- The name of a method in documents. -/
def name : HttpMethod → String
  | .get => "get"
  | .put => "put"
  | .post => "post"
  | .delete => "delete"
  | .options => "options"
  | .head => "head"
  | .patch => "patch"

/-- The name of a method in messages. -/
def display (m : HttpMethod) : String := m.name.map Char.toUpper

/-- The method of a name, in any mixture of upper and lower case. Only the ASCII letters have two
    cases here. -/
def ofName? (token : String) : Option HttpMethod :=
  all.find? fun m => m.name.toList = token.toList.map Char.toLower

end HttpMethod

/-- Where a parameter is sent. -/
inductive ParameterLocation where
  | path
  | query
  | body
deriving Repr, DecidableEq, Inhabited

namespace ParameterLocation

/-- The name of a location in documents. -/
def name : ParameterLocation → String
  | .path => "path"
  | .query => "query"
  | .body => "body"

/-- The location of a name. -/
def ofName? : String → Option ParameterLocation
  | "path" => some .path
  | "query" => some .query
  | "body" => some .body
  | _ => none

end ParameterLocation

/-- The key of a response: the default one, or an exact status code. -/
inductive ResponseKey where
  | default
  | status (code : Nat)
deriving Repr, DecidableEq, Inhabited

namespace ResponseKey

/-- A number of 16 bits with one more digit. It is none if it does not fit any longer. -/
def pushDigit? (number : UInt16) (c : Char) : Option UInt16 :=
  if c.isDigit then
    let longer := number.toNat * 10 + (c.toNat - '0'.toNat)
    if longer < UInt16.size then some (.ofNat longer) else none
  else none

/-- The number of 16 bits that a nonempty run of ASCII digits writes, with any number of leading
    zeros. -/
def decimal? : List Char → Option UInt16
  | [] => none
  | cs => cs.foldlM pushDigit? 0

/-- A status code may carry one plus sign. -/
def code? : List Char → Option UInt16
  | '+' :: cs => decimal? cs
  | cs => decimal? cs

/-- Status codes are the numbers from 100 to 599. -/
def isStatus (code : Nat) : Bool := 100 ≤ code && code ≤ 599

/-- Reads the key of a response. -/
def parse? (text : String) : Option ResponseKey :=
  if text = "default" then some .default
  else
    match code? text.toList with
    | some code => if isStatus code.toNat then some (.status code.toNat) else none
    | none => none

/-- The text of a key. -/
def display : ResponseKey → String
  | .default => "default"
  | .status code => toString code

/-- The default key comes first; status codes follow in ascending order. -/
def rank : ResponseKey → Nat
  | .default => 0
  | .status code => code + 1

instance : LT ResponseKey := ⟨fun a b => a.rank < b.rank⟩

instance : DecidableLT ResponseKey := fun a b => inferInstanceAs (Decidable (a.rank < b.rank))

end ResponseKey

end SwaggerDocs
