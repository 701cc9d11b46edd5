import EntityQuery.Request
import EntityQuery.Remote.Parameters

/-!
# Dialects

The kinds of service that queries are compiled for, and what each of them asks for in a request.
-/

namespace EntityQuery

open Text

/-- A kind of service: generic ones that answer in JSON, XML or HTML, OData of version 2 and 4,
services between the two versions, and GraphQL. -/
inductive Dialect where
  | json
  | xml
  | html
  | odata2
  | odata4
  | odata
  | graphql
  deriving DecidableEq, Repr, Inhabited

namespace Dialect

/-- All dialects with their names. -/
def registry : List (String × Dialect) :=
  [("json", .json), ("xml", .xml), ("html", .html), ("odata2", .odata2), ("odata4", .odata4),
   ("odata", .odata), ("graphql", .graphql)]

/-- The names of all dialects. -/
def names : List String := registry.map Prod.fst

/-- The name of a dialect. -/
def name : Dialect → String
  | .json => "json"
  | .xml => "xml"
  | .html => "html"
  | .odata2 => "odata2"
  | .odata4 => "odata4"
  | .odata => "odata"
  | .graphql => "graphql"

/-- The dialect with a name, in any case. -/
def ofName (text : String) : Except NameFault Dialect :=
  match registry.lookup (lower text) with
  | some d => .ok d
  | none => .error (.dialect text names)

/-- How conditions are sent. -/
def filterStyle : Dialect → FilterStyle
  | .odata2 | .odata => .odata2
  | .odata4 => .odata4
  | .graphql => .arguments
  | .json | .xml | .html => .urlParameters

/-- How values are written. -/
def codec (d : Dialect) : Codec := d.filterStyle.codec

/-- Whether the dialect is one of OData. -/
def isOData : Dialect → Bool
  | .odata2 | .odata4 | .odata => true
  | _ => false

/-- How a sort order is sent. -/
def sortStyle (d : Dialect) : SortStyle := if d.isOData then .directions else .fields

/-- The parameters of every read. -/
def readParams : Dialect → Url.Params
  | .odata2 | .odata => [("$format", some "json")]
  | _ => []

/-- The headers of every read. -/
def readHeaders : Dialect → Headers
  | .xml => [("Accept", "application/xml")]
  | .html => [("Accept", "text/html")]
  | .odata2 =>
    [("Accept", "application/json"), ("DataServiceVersion", "2.0"),
     ("MaxDataServiceVersion", "2.0")]
  | .odata4 =>
    [("Accept", "application/json"), ("OData-Version", "4.0"), ("OData-MaxVersion", "4.0")]
  | .odata => [("Accept", "application/json")]
  | .json | .graphql => []

/-- The parameter that lists the fields to read. -/
def selectParam? (d : Dialect) : Option String := if d.isOData then some "$select" else none

/-- The parameter that lists the links to follow. -/
def expandParam? : Dialect → Option String
  | .odata2 | .odata4 => some "$expand"
  | _ => none

/-- Whether items are addressed as `Set(key)` instead of `set/key`. -/
def usesKeyPredicates (d : Dialect) : Bool := d.isOData

/-- The method of updates. -/
def updateMethod : Dialect → String
  | .odata2 => "MERGE"
  | .odata4 | .odata => "PATCH"
  | _ => "PUT"

end Dialect

end EntityQuery
