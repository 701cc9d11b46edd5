import EntityQuery.Dialect.Basic

/-!
# Paging

How a dialect asks for a window of the rows and for their number: in the response itself, by a
further request, or not at all.
-/

namespace EntityQuery

open Text Url

namespace Dialect

/-- The name of the offset parameter. -/
def offsetParam? (d : Dialect) (o : EntityOptions) : Option String :=
  match d with
  | .graphql => o.graphqlOffsetArgument
  | .odata2 | .odata4 => (nonEmpty? o.requestOffsetParameter).or (some "$skip")
  | .odata => (nonEmpty? o.requestOffsetParameter).or (some "$skiptoken")
  | .json | .xml | .html => nonEmpty? o.requestOffsetParameter

/-- The name of the limit parameter. -/
def limitParam? (d : Dialect) (o : EntityOptions) : Option String :=
  match d with
  | .graphql => o.graphqlLimitArgument
  | .odata2 | .odata4 | .odata => (nonEmpty? o.requestLimitParameter).or (some "$top")
  | .json | .xml | .html => nonEmpty? o.requestLimitParameter

/-- Whether the service cuts the window. -/
def pagesRemotely (d : Dialect) (o : EntityOptions) : Bool :=
  match d with
  | .odata2 | .odata4 | .odata => true
  | .graphql => o.graphqlRemotePagination != some false && (nonEmpty? (d.limitParam? o)).isSome
  | .json | .xml | .html => (d.limitParam? o).isSome

/-- The parameters that ask for the number of rows in the response. -/
def countParams (d : Dialect) (o : EntityOptions) : Params :=
  if o.odataInlinecount = some false then []
  else
    match d with
    | .odata2 => [("$inlinecount", some "allpages")]
    | .odata4 => [("$count", some "true")]
    | _ => []

/-- A parameter with a number, unless the number is not positive or the name is missing. -/
def numberParam (name : Option String) (n : Int) : Params :=
  match nonEmpty? name with
  | some name => if 0 < n then [(name, some (Number.integerText n))] else []
  | none => []

/-- The parameters of a window. -/
def windowParams (d : Dialect) (o : EntityOptions) (offset limit : Int) : Params :=
  numberParam (d.offsetParam? o) offset ++ numberParam (d.limitParam? o) limit ++ d.countParams o

/-- Whether one row more than the limit is read, to see whether there are more. -/
def readsExtraRow (d : Dialect) (o : EntityOptions) (limit : Int) : Bool :=
  d = .graphql && 0 < limit && d.pagesRemotely o

/-- The arguments of a window, one row longer than asked for. The limit has no name where none is
configured, which never happens when the service cuts the window. -/
def windowArguments (d : Dialect) (o : EntityOptions) (offset limit : Int) :
    List (Option String × Int) :=
  (match nonEmpty? (d.offsetParam? o) with
    | some name => if 0 < offset then [(some name, offset)] else []
    | none => [])
  ++ (if 0 < limit then [(d.limitParam? o, limit + 1)] else [])

/-- The names of the parameters that a request for the number of rows leaves out. -/
def windowNames (d : Dialect) (o : EntityOptions) : List String :=
  (d.offsetParam? o).toList ++ (d.limitParam? o).toList ++ ["$format"]
    ++ (d.countParams o).map Prod.fst

/-- The request for the number of rows that another request would return without its window. -/
def countRequest? (d : Dialect) (o : EntityOptions) (r : Request) : Option Request :=
  if d.isOData then
    let params := r.params.filter fun p => p.1 ∉ d.windowNames o
    some (.withParams "GET" (trimEndChar '/' r.path ++ "/$count") params [("Accept", "text/plain")])
  else none

end Dialect

end EntityQuery
