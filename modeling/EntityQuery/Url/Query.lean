import EntityQuery.Text.Basic
import EntityQuery.Url.Percent

/-!
# Query strings

Named parameters in order, with or without a value. A parameter without a name is not written.
-/

namespace EntityQuery.Url

open Text

/-- Parameters of a URL in order. -/
abbrev Params := List (String × Option String)

/-- The characters of a value that stay readable: none of them splits a query string. -/
def keptInValue (c : Char) : Bool := c ∈ "$'(),:/@!*;".toList

/-- The characters of a path that stay as they are; a percent sign is taken for an escape. -/
def keptInPath (c : Char) : Bool := c ∈ "/$'(),:=@;&+!*%".toList

/-- The parameters that have a name. -/
def named (params : Params) : Params := params.filter fun p => p.1 != ""

/-- A parameter as it is read. -/
def plainParam : String × Option String → String
  | (name, some value) => name ++ "=" ++ value
  | (name, none) => name

/-- A parameter as it is sent. -/
def encodedParam : String × Option String → String
  | (name, some value) => encode (· == '$') name ++ "=" ++ encode keptInValue value
  | (name, none) => encode (· == '$') name

/-- The readable query string. -/
def plainQuery (params : Params) : String := join "&" ((named params).map plainParam)

/-- The query string as it is sent. -/
def encodedQuery (params : Params) : String := join "&" ((named params).map encodedParam)

/-- A parameter of a query string. -/
def parseParam (part : String) : String × Option String :=
  match cut? "=" part with
  | some (name, value) => (decode name, some (decode value))
  | none => (decode part, none)

/-- The parameters of a query string. -/
def parseQuery (query : String) : Params :=
  ((split '&' query).filter (· != "")).map parseParam

/-- An address with a query string added. -/
def appendQuery (uri query : String) : String :=
  if query = "" then uri else uri ++ (if contains "?" uri then "&" else "?") ++ query

/-- The part of an address before its query string. -/
def pathOf (uri : String) : String := ((cut? "?" uri).map Prod.fst).getD uri

/-- The query string of an address. -/
def queryOf (uri : String) : String := ((cut? "?" uri).map Prod.snd).getD ""

end EntityQuery.Url
