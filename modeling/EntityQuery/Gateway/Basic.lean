import EntityQuery.Execution.Read
import EntityQuery.Gateway.Form
import EntityQuery.Transport.Connection

/-!
# The gateway

Answers forms over HTTP: it compiles queries, reads rows from bodies, and runs reads against the
service of the environment, never for more than a number of rows.
-/

namespace EntityQuery

open Text

/-- The settings of a gateway: the key that callers must show, if there is one, and the largest
page. -/
structure Gateway where
  apiKey : String
  maxLimit : Int
  deriving DecidableEq, Repr, Inhabited

/-- A call of the gateway. -/
structure Visit where
  method : String
  path : String
  headers : Headers := []
  form : Option Value := none
  deriving Inhabited

/-- What the gateway answers: a result, a refusal with its status and reason, the places where a
form is not as asked for, a fault of the query, or a fault of another kind. -/
inductive Answer where
  | done (result : Row)
  | refused (status : Nat) (reason : Value)
  | invalid (places : List Location)
  | rejected (fault : Error)
  | failed (fault : Error)
  deriving Inhabited

namespace Answer

/-- The status of an answer. -/
def status : Answer → Nat
  | done _ => 200
  | refused status _ => status
  | invalid _ => 422
  | rejected _ => 400
  | failed _ => 500

end Answer

mutual

/-- A value as an answer holds it: numbers that are not finite become null. -/
def Value.finite : Value → Value
  | .float x => if x matches .finite .. then .float x else .null
  | .list items => .list (Value.finiteItems items)
  | .map entries => .map (Value.finiteEntries entries)
  | v => v

/-- The items of a list as an answer holds them. -/
def Value.finiteItems : List Value → List Value
  | [] => []
  | v :: rest => v.finite :: Value.finiteItems rest

/-- The entries of a map as an answer holds them. -/
def Value.finiteEntries : List (String × Value) → List (String × Value)
  | [] => []
  | (k, v) :: rest => (k, v.finite) :: Value.finiteEntries rest

end

/-- The value of a text that may be missing. -/
def Value.ofText? (s : Option String) : Value := (s.map Value.str).getD .null

/-- The value of a number that may be unknown. -/
def Value.ofInteger? (n : Option Int) : Value := (n.map Value.int).getD .null

/-- A request as an answer holds it. -/
def Request.value (r : Request) : Value :=
  .map [("method", .str r.method), ("uri", .str r.uri),
    ("headers", .map (r.headers.map fun h => (h.1, .str h.2))), ("body", .ofText? r.body)]

/-- Rows as an answer holds them. -/
def Value.ofRows (rows : List Row) : Value := .list (rows.map fun row => (Value.map row).finite)

/-- Whether a fault is one of the query, and not of the gateway. -/
def Error.isOfQuery : Error → Bool
  | .codec (.cast ..) _ | .codec .number _ | .codec .year _ => true
  | .codec .. => false
  | .service _ => false
  | .name .apiKey => false
  | .malformed m =>
    m ∈ [.number, .url, .moment, .name, .separator, .encoding, .json]
  | _ => true

/-- The answer for a fault. -/
def Answer.ofError (e : Error) : Answer := if e.isOfQuery then .rejected e else .failed e

namespace Gateway

/-- The largest page where none is set. -/
def defaultMaxLimit : String := "500"

/-- Settles every setting, from the environment where it is not given. -/
def resolve (env : Environment) (apiKey : Option String) (maxLimit : Option Int) :
    Except Error Gateway := do
  let maxLimit ← match maxLimit with
    | some n => pure n
    | none =>
      match Number.integerOfText? (env.getD "URLQUERY_MAX_LIMIT" defaultMaxLimit) with
      | some n => pure n
      | none => throw (.malformed .number)
  pure ⟨apiKey.getD (env.getD "URLQUERY_API_KEY" ""), maxLimit⟩

/-- Whether the settings are complete: a key is needed. -/
def validate (g : Gateway) : Except NameFault Unit :=
  if g.apiKey = "" then .error .apiKey else .ok ()

/-- Whether a caller shows the key that is asked for. -/
def admits (g : Gateway) (v : Visit) : Bool :=
  g.apiKey = "" || (v.headers.get? "x-api-key").getD "" = g.apiKey

/-- The limit of a page: what is asked for, but never more than the largest. -/
def pageLimit (g : Gateway) (asked : Int) : Int :=
  if asked = 0 ∨ g.maxLimit < asked then g.maxLimit else asked

/-- The name of an operation. -/
def operationName (o : Option Operation) : String :=
  ((operationWords.find? (·.2 == o)).map Prod.fst).getD "read"

/-- Compiles the query of a form. -/
def compile (f : CompileForm) : Except Error Row := do
  let d ← Dialect.ofName f.query.dialect
  let q ← f.query.query
  let (requests, count) ← match f.operation with
    | some operation => do pure (← q.writeRequests d operation, none)
    | none => do
      let p ← Plan.of d q
      match ← p.readRequest? d with
      | some r => pure ([r], p.countRequest? d r)
      | none => pure ([], none)
  pure [("dialect", .str d.name), ("operation", .str (operationName f.operation)),
    ("requests", .list (requests.map (·.value))),
    ("count_request", (count.map (·.value)).getD .null)]

/-- Reads the rows of the body of a form. -/
def extract (f : ExtractForm) : Except Error Row := do
  let d ← Dialect.ofName f.query.dialect
  let p ← Plan.of d (← f.query.query)
  let body ← match f.text with
    | some text => Body.ofText d text
    | none => pure (.data f.body)
  let rows ← body.rows d p.query f.itemScoped
  let total ← body.count d p.entity
  pure [("count", .int rows.length), ("total_count", .ofInteger? total), ("rows", .ofRows rows)]

variable {ω : Type}

/-- Runs the read of a form against the service of the environment. -/
def read (g : Gateway) (env : Environment) (server : Server ω) (names : Nat → String)
    (f : QueryForm) : Exchange (Session ω) Row := do
  let q ← f.query
  let connection ← Connection.resolve env {}
  let d ← connection.dialectFor (some f.dialect)
  let t := Session.transport server connection.config names
  let result ← { q with limit := g.pageLimit q.limit }.read d t
  pure [("count", .int result.rows.length), ("total_count", .ofInteger? result.total),
    ("has_more_rows", .bool result.hasMore), ("rows", .ofRows result.rows)]

/-- The answer for a read that failed: what the service reported, or the fault. -/
def readFault : Error → Answer
  | .service u => .refused 502 (.map [("upstream_status", .int u.status),
      ("message", .str u.message), ("url", .str u.url)])
  | e => .ofError e

/-- The form of a call, which must have one. -/
def formOf {α : Type} (v : Visit) (read : Value → Check α) : Check α :=
  match v.form with
  | none => .fault
  | some form => read form

/-- The answer to a result or a fault. -/
def answer : Except Error Row → Answer
  | .ok row => .done row
  | .error e => .ofError e

/-- The version of the gateway. -/
def version : String := "0.3.0"

/-- The routes: their methods, paths, and whether they ask for the key. -/
def routes : List (String × String × Bool) :=
  [("/health", "GET", false), ("/dialects", "GET", true), ("/compile", "POST", true),
   ("/extract", "POST", true), ("/read", "POST", true)]

/-- The answer of the route at a path. -/
def serve (g : Gateway) (env : Environment) (server : Server ω) (names : Nat → String)
    (path : String) (v : Visit) : StateM (Session ω) Answer := do
  match path with
  | "/health" => pure (.done [("ok", .bool true), ("version", .str version)])
  | "/dialects" => pure (.done [("dialects", .list (Dialect.names.map .str))])
  | "/compile" =>
    match formOf v CompileForm.read with
    | .faulty places => pure (.invalid places)
    | .valid f => pure (answer (compile f))
  | "/extract" =>
    match formOf v ExtractForm.read with
    | .faulty places => pure (.invalid places)
    | .valid f => pure (answer (extract f))
  | _ =>
    match formOf v QueryForm.read with
    | .faulty places => pure (.invalid places)
    | .valid f =>
      match ← g.read env server names f with
      | .ok row => pure (.done row)
      | .error e => pure (readFault e)

/-- The path of a route: one slash at its start, none at its end, and nothing of a query. -/
def routePath (path : String) : String :=
  let path := ((cut? "?" path).map Prod.fst).getD path
  "/" ++ trimEndChar '/' (trimStartChar '/' path)

/-- Answers a call. -/
def handle (g : Gateway) (env : Environment) (server : Server ω) (names : Nat → String)
    (v : Visit) : StateM (Session ω) Answer := do
  let path := routePath v.path
  match routes.lookup path with
  | none => pure (.refused 404 (.str "Not Found"))
  | some (method, guarded) =>
    if upper v.method ≠ method then pure (.refused 405 (.str "Method Not Allowed"))
    else if guarded && !g.admits v then pure (.refused 401 (.str "Invalid API key"))
    else g.serve env server names path v

end Gateway

end EntityQuery
