import EntityQuery.Text.Casing
import EntityQuery.Url.Query

/-!
# Requests

One outbound call. Its parameters are kept beside the readable address, so that values that hold
separators survive encoding.
-/

namespace EntityQuery

open Url

/-- Named header values in order. -/
abbrev Headers := List (String × String)

/-- Sets a header; one that is there keeps its place. -/
def Headers.put : Headers → String → String → Headers
  | [], name, value => [(name, value)]
  | h :: hs, name, value =>
    if h.1 = name then (name, value) :: hs else h :: Headers.put hs name value

/-- Sets a header, told by its name in any case. One that is there keeps its place and takes the
new spelling. -/
def Headers.set : Headers → String → String → Headers
  | [], name, value => [(name, value)]
  | h :: hs, name, value =>
    if Text.lower h.1 = Text.lower name then (name, value) :: hs else h :: Headers.set hs name value

/-- Sets several headers in order. -/
def Headers.setAll (headers new : Headers) : Headers :=
  new.foldl (fun hs h => hs.set h.1 h.2) headers

/-- The value of the last header with a name, in any case. -/
def Headers.get? (headers : Headers) (name : String) : Option String :=
  (headers.reverse.find? fun h => Text.lower h.1 == Text.lower name).map Prod.snd

/-- An outbound call; the address is relative to the service. -/
structure Request where
  method : String := "GET"
  uri : String := ""
  headers : Headers := []
  body : Option String := none
  queryParams : Option Params := none
  deriving DecidableEq, Repr, Inhabited

namespace Request

/-- A request for a path with parameters. -/
def withParams (method path : String) (params : Params) (headers : Headers) : Request :=
  { method := method, uri := appendQuery path (plainQuery params), headers := headers,
    queryParams := some params }

/-- The path of the address. -/
def path (r : Request) : String := pathOf r.uri

/-- The query string of the address. -/
def query (r : Request) : String := queryOf r.uri

/-- The parameters: those given, else those of the address. -/
def params (r : Request) : Params := r.queryParams.getD (parseQuery r.query)

/-- The address as it is sent. -/
def encodedUri (r : Request) : String :=
  appendQuery (encode keptInPath r.path) (encodedQuery r.params)

/-- The request as messages show it. -/
def shown (r : Request) : String := r.method ++ " " ++ r.uri

end Request

end EntityQuery
