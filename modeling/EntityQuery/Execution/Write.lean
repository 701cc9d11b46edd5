import EntityQuery.Batch.Request
import EntityQuery.Batch.Response
import EntityQuery.Body.Rows
import EntityQuery.Transport.Session

/-!
# Writing

Runs the creations, updates and deletions of a query, one request after the other or all of them in
one batch.
-/

namespace EntityQuery

namespace Query

variable {σ : Type}

/-- Whether writes go into one batch. -/
def usesBatch (q : Query) (d : Dialect) : Bool := q.entity.options.odataBatch && d.isOData

/-- Sends several writes in one batch and gives the values of their answers. -/
def sendBatch (t : Transport σ) (rs : List Request) : Exchange σ (List Value) := do
  let service ← Batch.Service.ofUrl t.baseUrl
  let batchName ← t.freshName
  let changesetName ← t.freshName
  let answer ← t.send (← Batch.request service batchName changesetName rs)
  let parts ← Batch.parse answer.text (some ((answer.headers.get? "Content-Type").getD ""))
  match Batch.firstFailure? parts with
  | some e => throw e
  | none => parts.mapM fun part => part.json

/-- Sends writes one by one and gives the values of their answers. -/
def sendEach (t : Transport σ) : List Request → Exchange σ (List Value)
  | [] => pure []
  | r :: rest => do
    let v ← (← t.send r).json
    pure (v :: (← sendEach t rest))

/-- Sends writes and gives the values of their answers, in order. -/
def sendAll (q : Query) (d : Dialect) (t : Transport σ) (rs : List Request) :
    Exchange σ (List Value) :=
  if q.usesBatch d && !rs.isEmpty then sendBatch t rs else sendEach t rs

/-- Creates one item for each row and gives their identifiers. -/
def create (q : Query) (d : Dialect) (t : Transport σ) : Exchange σ (List Value) := do
  let bodies ← q.sendAll d t (← q.writeRequests d .create)
  bodies.mapM fun body => Body.createdId d q.entity body

/-- Updates the items of the rows and gives the number of requests. -/
def update (q : Query) (d : Dialect) (t : Transport σ) : Exchange σ Nat := do
  let rs ← q.writeRequests d .update
  discard (q.sendAll d t rs)
  pure rs.length

/-- Deletes items and gives the number of requests; without identifiers there is nothing to
delete. -/
def delete (q : Query) (d : Dialect) (t : Transport σ) : Exchange σ Nat := do
  let rs ← q.writeRequests d .delete
  if rs.isEmpty then throw (.query (.nothingToDelete q.entity.name))
  discard (q.sendAll d t rs)
  pure rs.length

end Query

end EntityQuery
