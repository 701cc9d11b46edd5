import EntityQuery.Data.Path
import EntityQuery.Plan.Read

/-!
# Write requests

The requests that create, update and delete items, one for each row or identifier.
-/

namespace EntityQuery

open Text

/-- An occasion of writing: where the values of attributes go. -/
inductive Occasion where
  | create
  | update
  deriving DecidableEq, Repr, Inhabited

/-- The address of an attribute in a body. -/
def Attribute.writeAddress (a : Attribute) (o : Occasion) : String :=
  let own := match o with
    | .create => a.options.createDataAddress
    | .update => a.options.updateDataAddress
  (nonEmpty? own).getD a.dataAddress

/-- The body of a row: every value at its address. Missing values, attributes of related entities
and those without remote address are left out. -/
def rowBody (c : Codec) (o : Occasion) (skip : Option String) (values : List (Attribute × Value)) :
    Except Error Row :=
  values.foldlM (fun body (a, v) => do
    if skip = some a.name || a.related || v.isMissing || !a.hasRemoteAddress then pure body
    else
      let encoded ← c.encodeForBody v a.dataType a.options.odataType
      pure (Path.mergeInto body (a.writeAddress o) encoded)) []

/-- A request with a JSON body. -/
def jsonRequest (method uri : String) (body : Value) : Request :=
  { method := method, uri := uri, headers := jsonHeaders,
    body := some (Json.write Json.compact body) }

namespace Query

/-- The value of a placeholder in the address of an item: its identifier, or a value of its row. -/
def itemValue? (uid : Value) (row : Row) (name : String) : Option String :=
  let n := lower name
  if n = "uid" ∨ n = "~uid" then
    match uid with
    | .null => none
    | v => some v.text
  else (present? row name).map Value.text

/-- The address of an item. -/
def itemUri (d : Dialect) (e : Entity) (uid : Value) (row : Row) (template : Option String) :
    Except Error String :=
  match nonEmpty? template with
  | some t =>
    match fillPlaceholders? (itemValue? uid row) t with
    | some uri => .ok uri
    | none => .error (.query (.missingPlaceholders t))
  | none =>
    if uid.isMissing then .error (.query (.missingUid e.name))
    else
      match d.usesKeyPredicates, e.uidAttribute? with
      | true, some a => do
        pure (e.dataAddress ++ "(" ++ (← d.codec.encode uid a.dataType a.options.odataType) ++ ")")
      | _, _ => .ok (trimEndChar '/' e.dataAddress ++ "/" ++ uid.text)

/-- One creation for each row. -/
def createRequests (q : Query) (d : Dialect) : Except Error (List Request) := do
  let o := q.entity.options
  let uri := (nonEmpty? o.createRequestDataAddress).getD q.entity.dataAddress
  (← q.writtenRows).mapM fun values => do
    let body ← rowBody d.codec .create none values
    pure (jsonRequest "POST" uri (← Path.wrap (o.createRequestDataPath.getD "") (.map body)))

/-- The identifier of the row at a position: its own, or the one that the filter names for it. -/
def rowUid (q : Query) (uids : List Value) (position : Nat) (row : Row) : Value :=
  let own := match q.entity.uid? with
    | some uid => (row.get? uid).getD .null
    | none => .null
  if !own.isMissing then own
  else
    match uids with
    | [uid] => uid
    | uids => if uids.length = q.rows.length then uids.getD position own else own

/-- One update for each row. -/
def updateRequests (q : Query) (d : Dialect) : Except Error (List Request) := do
  let o := q.entity.options
  let method := (nonEmpty? o.updateRequestMethod).getD d.updateMethod
  let uids ← q.uidValues
  let rows := q.rows.zip (← q.writtenRows)
  let skip := if d.usesKeyPredicates then q.entity.uid? else none
  rows.zipIdx.mapM fun ((row, values), i) => do
    let uri ← itemUri d q.entity (q.rowUid uids i row) row o.updateRequestDataAddress
    let body ← rowBody d.codec .update skip values
    pure (jsonRequest method uri (← Path.wrap (o.updateRequestDataPath.getD "") (.map body)))

/-- One deletion for each identifier. -/
def deleteRequests (q : Query) (d : Dialect) : Except Error (List Request) := do
  (← q.uidValues).mapM fun uid => do
    let row := (q.entity.uid?.map fun name => (name, uid)).toList
    let uri ← itemUri d q.entity uid row q.entity.options.deleteRequestDataAddress
    pure { method := "DELETE", uri := uri, headers := [("Accept", "application/json")] }

/-! ## Mutations -/

/-- The mutation that an option of the entity names. -/
def mutationName (e : Entity) (option : String) (name : EntityOptions → Option String) :
    Except Unsupported String :=
  match nonEmpty? (name e.options) with
  | some n => .ok n
  | none => .error (.mutation e.name option)

/-- The field that identifies items. -/
def uidField (e : Entity) : Except QueryFault String :=
  match e.uidAttribute? with
  | some a => .ok a.dataAddress
  | none => .error (.noUidAttribute e.name)

/-- The name of the mutation that creates items. -/
def createMutation (e : Entity) : Except Unsupported String :=
  mutationName e "graphql_create_mutation" (·.graphqlCreateMutation)

/-- The arguments of a row. -/
def rowArguments (address : AttributeOptions → Option String) (values : List (Attribute × Value)) :
    Except Error Row :=
  values.foldlM (fun arguments (a, v) => do
    if v.isMissing || !a.hasRemoteAddress then pure arguments
    else pure (arguments.put (← Graphql.field address a) v)) []

/-- One mutation for each row. -/
def rowMutations (q : Query) (name : Except Unsupported String)
    (address : AttributeOptions → Option String) : Except Error (List Request) := do
  let name ← name
  let uid ← uidField q.entity
  (← q.writtenRows).mapM fun values => do
    let arguments ← rowArguments address values
    pure (Graphql.request q.entity.options (Graphql.mutationDocument name arguments [uid]))

/-- One mutation for each identifier. -/
def deleteMutations (q : Query) : Except Error (List Request) := do
  let name ← mutationName q.entity "graphql_delete_mutation" (·.graphqlDeleteMutation)
  let uid ← uidField q.entity
  (← q.uidValues).mapM fun v =>
    pure (Graphql.request q.entity.options (Graphql.mutationDocument name [(uid, v)] [uid]))

end Query

/-- What is done to items. -/
inductive Operation where
  | create
  | update
  | delete
  deriving DecidableEq, Repr, Inhabited

/-- The requests of an operation. -/
def Query.writeRequests (q : Query) (d : Dialect) : Operation → Except Error (List Request)
  | .create =>
    match d with
    | .graphql => q.rowMutations (Query.createMutation q.entity) (·.createDataAddress)
    | d => q.createRequests d
  | .update =>
    match d with
    | .graphql =>
      q.rowMutations
        (Query.mutationName q.entity "graphql_update_mutation" (·.graphqlUpdateMutation))
        (·.updateDataAddress)
    | d => q.updateRequests d
  | .delete =>
    match d with
    | .graphql => q.deleteMutations
    | d => q.deleteRequests d

end EntityQuery
