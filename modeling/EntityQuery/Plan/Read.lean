import EntityQuery.Graphql.Document
import EntityQuery.Plan.Endpoint

/-!
# Read requests

The request that a plan compiles to, and the one for the number of its rows. There is none when a
placeholder has no value, or when the entity asks for filters and the query has none.
-/

namespace EntityQuery

open Text Url

/-- The JSON headers of requests with a body. -/
def jsonHeaders : Headers := [("Content-Type", "application/json"), ("Accept", "application/json")]

namespace Graphql

/-- The request that carries a document. -/
def request (o : EntityOptions) (doc : String) : Request :=
  if o.graphqlJsonEnvelope then
    { method := "POST", headers := jsonHeaders, body := some (envelope doc none) }
  else
    { method := "POST",
      headers := [("Content-Type", "application/graphql"), ("Accept", "application/json")],
      body := some doc }

/-- The operation that reads an entity. -/
def readOperation (e : Entity) : String :=
  (nonEmpty? e.options.graphqlReadQuery).getD e.dataAddress

/-- The field of an attribute, under its address for an occasion or its own. -/
def field (address : AttributeOptions → Option String) (a : Attribute) : Except QueryFault String :=
  if a.related then .error (.relatedAttribute a.name)
  else .ok ((nonEmpty? (address a.options)).getD a.dataAddress)

end Graphql

instance : MonadLift (Except QueryFault) (Except Error) := ⟨Except.mapError .query⟩

/-- A list with an item at its end, unless the list has it. -/
def addOnce (xs : List String) (x : String) : List String := if x ∈ xs then xs else xs ++ [x]

/-- The part of a path before its last step, if it has more than one. -/
def parentPath? (path : String) : Option String :=
  let cs := path.toList.reverse
  match cs.dropWhile (· != '/') with
  | '/' :: r => some (String.ofList r.reverse)
  | _ => none

namespace Plan

/-- Whether the entity asks for filters and the query has none. -/
def lacksFilters (p : Plan) : Bool :=
  p.options.forceFiltering && p.remote.isEmpty && p.localFilters.isEmpty

/-- The fields to read and the links to follow. -/
def projection (p : Plan) (d : Dialect) : Except Error Params :=
  match d.selectParam? with
  | none => .ok []
  | some select => do
    if p.query.attributes.isEmpty || !p.options.odataSelect then pure []
    else
      let addresses := ((← p.query.selected).filter (·.hasRemoteAddress)).map (·.dataAddress)
      let fields := addresses.foldl addOnce []
      let links := (addresses.filterMap parentPath?).foldl addOnce []
      let list (name : String) (items : List String) : Params :=
        if items.isEmpty then [] else [(name, some (join "," items))]
      pure (list select fields ++ match d.expandParam? with
        | some expand => list expand links
        | none => [])

/-- The numbers of the sent conditions among located ones. -/
def sentIndices (ls : List Located) : List Nat :=
  ls.filterMap fun
    | (.remote i, _) => some i
    | (.locally _, _) => none

/-- The parameters of a read beside those of its address. -/
def readParams (p : Plan) (d : Dialect) (consumed : List Located) : Except Error Params := do
  let filters ← (p.remote.without (sentIndices consumed)).parameters d.filterStyle
  let sorters := d.sortStyle.parameters p.sorters
  let window :=
    if ← p.pagesRemotely d then d.windowParams p.options p.query.offset p.query.limit else []
  pure (filters ++ sorters ++ window ++ (← p.projection d) ++ d.readParams)

/-- The read request to an address. -/
def urlRequest? (p : Plan) (d : Dialect) : Except Error (Option Request) := do
  if p.lacksFilters then pure none
  else
    let e ← p.endpoint d
    match e.address with
    | none => pure none
    | some address =>
      let params := parseQuery (queryOf address) ++ (← p.readParams d e.consumed)
      pure (some (.withParams "GET" (pathOf address) params d.readHeaders))

/-- The arguments of a query document: those of the filters, then those of the window. -/
def documentArguments (p : Plan) (d : Dialect) : Except Error Row := do
  let arguments := p.remote.arguments d.filterStyle
  if ← p.pagesRemotely d then
    let window := d.windowArguments p.options p.query.offset p.query.limit
    pure (window.foldl (fun row (name, n) =>
      match name with
      | some name => row.put name (.int n)
      | none => row) arguments)
  else pure arguments

/-- The read request that carries a query document. -/
def documentRequest? (p : Plan) (d : Dialect) : Except Error (Option Request) := do
  if p.lacksFilters then pure none
  else
    let attributes := (← p.query.selected).filter (·.hasRemoteAddress)
    let fields ← attributes.mapM fun a => do pure (← Graphql.field (·.readDataAddress) a)
    let arguments ← p.documentArguments d
    pure (some (Graphql.request p.options
      (Graphql.queryDocument (Graphql.readOperation p.entity) fields arguments)))

/-- The read request. -/
def readRequest? (p : Plan) (d : Dialect) : Except Error (Option Request) :=
  match d with
  | .graphql => p.documentRequest? d
  | d => p.urlRequest? d

/-- The request for the number of rows of a read. -/
def countRequest? (p : Plan) (d : Dialect) (r : Request) : Option Request :=
  d.countRequest? p.options r

end Plan

end EntityQuery
