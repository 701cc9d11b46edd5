import EntityQuery.Graphql.Document
import EntityQuery.Graphql.Schema
import EntityQuery.Graphql.Selection
import EntityQuery.Plan.Read
import EntityQuery.Transport.Session

/-!
# Introspection

Asks a service for its schema, once.
-/

namespace EntityQuery.Graphql

/-- The request for the schema. -/
def introspectionRequest (uri : String) : Request :=
  { method := "POST", uri := uri, headers := jsonHeaders,
    body := some (envelope introspectionQuery (some "IntrospectionQuery")) }

/-- A member of a map; anything that counts as false has none. -/
def member (v : Value) (name : String) : Except Error Value :=
  if v.isTrue then
    match v with
    | .map entries => .ok ((entries.lookup name).getD .null)
    | _ => .error (.malformed .shape)
  else .ok .null

/-- The schema in the body of an answer; only errors and no data is a failure. -/
def schemaOf (uri : String) (status : Int) (body : Value) : Except Error Schema := do
  let errors ← member body "errors"
  let data ← member body "data"
  if errors.isTrue && !data.isTrue then throw (.service ⟨status, errors.text, uri, []⟩)
  match ← member data "__schema" with
  | .map schema => pure ⟨schema⟩
  | v => if v.isTrue then throw (.malformed .shape) else pure ⟨[]⟩

/-- The schema of a service: the one kept from before, or the one it describes now. -/
def introspect {σ : Type} (t : Transport σ) (uri : String) (kept : Option Schema) :
    Exchange σ Schema := do
  match kept with
  | some schema => pure schema
  | none =>
    let answer ← t.send (introspectionRequest uri)
    schemaOf uri answer.status (← answer.json)

end EntityQuery.Graphql
