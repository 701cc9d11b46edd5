import EntityQuery.Body.Rows
import EntityQuery.Filter.Evaluation
import EntityQuery.Transport.Session

/-!
# Reading

Runs a query against a service: sends what its plan compiles to, decodes the answers, and does the
rest of the filtering, sorting and paging on the rows that came back.
-/

namespace EntityQuery

/-- What a read gives: the rows, their number without the window if it is known, and whether there
are more behind the window. -/
structure ReadResult where
  rows : List Row := []
  total : Option Int := none
  hasMore : Bool := false
  deriving DecidableEq, Inhabited

/-- The result of a query without request. -/
def ReadResult.empty : ReadResult := { total := some 0 }

namespace Plan

/-- The plan with one condition in the place of another. -/
def withCondition (p : Plan) (place : Place) (c : Condition) : Plan :=
  match place with
  | .remote i => { p with remote := p.remote.replace i (.condition c) }
  | .locally i => { p with localFilters := p.localFilters.replace i (.condition c) }

/-- The plans to run one after the other: one for each identifier where several are asked for from
an endpoint of single items. -/
def fanOut (p : Plan) : Except Error (List Plan) := do
  match ← p.itemCondition? with
  | some (place, c) =>
    if c.comparator = .isIn then
      match ← c.values with
      | v :: w :: rest =>
        pure ((v :: w :: rest).map fun value =>
          p.withCondition place { c with comparator := .equals, value := value })
      | _ => pure [p]
    else pure [p]
  | none => pure [p]

/-- What one request gives: the request, its rows and its counter. -/
structure Fetched where
  request : Request
  rows : List Row
  count : Option Int

variable {σ : Type}

/-- Runs the request of a plan, if it has one. -/
def fetch? (p : Plan) (d : Dialect) (t : Transport σ) (itemScoped : Bool) :
    Exchange σ (Option Fetched) := do
  match ← p.readRequest? d with
  | none => pure none
  | some request =>
    let body ← Body.ofResponse d (← t.send request)
    let rows ← body.rows d p.query itemScoped
    let count ← body.count d p.entity
    pure (some ⟨request, rows, count⟩)

/-- Runs several plans in order. -/
def fetchAll (d : Dialect) (t : Transport σ) (itemScoped : Bool) :
    List Plan → Exchange σ (List Fetched)
  | [] => pure []
  | p :: rest => do
    let fetched ← p.fetch? d t itemScoped
    let others ← fetchAll d t itemScoped rest
    pure (fetched.toList ++ others)

/-- Asks for the number of rows of a read; it stays unknown when the service reports an error. -/
def askCount (p : Plan) (d : Dialect) (t : Transport σ) (r : Request) :
    Exchange σ (Option Int) := do
  match p.countRequest? d r with
  | none => pure none
  | some request =>
    let answer ← tryCatch (some <$> t.send request) fun
      | .service _ => pure none
      | e => throw e
    match answer with
    | none => pure none
    | some answer =>
      match parseCount (.str answer.text) with
      | .ok n => pure n
      | .error m => throw (.malformed m)

/-- The window that the service cut, with the number of rows as far as it is known. -/
def remoteWindow (p : Plan) (d : Dialect) (t : Transport σ) (first : Fetched) (rows : List Row) :
    Exchange σ ReadResult := do
  let q := p.query
  if d.readsExtraRow p.options q.limit then
    if q.limit < rows.length then
      pure { rows := rows.take q.limit.toNat, hasMore := true }
    else pure { rows := rows, total := some (q.offset + rows.length) }
  else
    let total ←
      if first.count.isNone && (0 < q.limit || 0 < q.offset) then p.askCount d t first.request
      else pure first.count
    let hasMore := match total with
      | some n => decide (q.offset + rows.length < n)
      | none => false
    pure { rows := rows, total := total, hasMore := hasMore }

/-- What is done with the rows after reading, paging apart. -/
def refine (p : Plan) (rows : List Row) : Except Error (List Row) := do
  let rows := match nonEmpty? p.options.responseGroupByAttributeAlias with
    | some name => if p.options.responseGroupUseOnlyFirst then keepFirstGroup name rows else rows
    | none => rows
  sortRows p.localSorters (← applyFilters p.localFilters rows)

/-- The result of rows that are all there. -/
def localWindow (p : Plan) (rows : List Row) : ReadResult :=
  let window := applyWindow p.query.offset p.query.limit rows
  { rows := window, total := some rows.length,
    hasMore := p.query.offset + window.length < rows.length }

/-- The result with a total where a short window shows that it is the last one. -/
def closeWindow (p : Plan) (r : ReadResult) : ReadResult :=
  if r.total.isNone && !r.hasMore && (p.query.limit = 0 || r.rows.length < p.query.limit) then
    { r with total := some (p.query.offset + r.rows.length) }
  else r

/-- Runs a plan. -/
def run (p : Plan) (d : Dialect) (t : Transport σ) : Exchange σ ReadResult := do
  let itemScoped ← p.isItemScoped
  let remotely ← p.pagesRemotely d
  match ← fetchAll d t itemScoped (← p.fanOut) with
  | [] => pure .empty
  | first :: others =>
    let rows := (first :: others).flatMap (·.rows)
    if remotely then
      let window ← p.remoteWindow d t first rows
      pure (p.closeWindow { window with rows := ← p.refine window.rows })
    else pure (p.localWindow (← p.refine rows))

end Plan

namespace Query

variable {σ : Type}

/-- Reads the rows of a query. -/
def read (q : Query) (d : Dialect) (t : Transport σ) : Exchange σ ReadResult := do
  (← Plan.of d q).run d t

/-- The number of rows of a query, whatever its window. -/
def count (q : Query) (d : Dialect) (t : Transport σ) : Exchange σ (Option Int) := do
  let whole := { q with offset := 0, limit := 0 }
  let p ← Plan.of d whole
  if ← p.pagesRemotely d then
    match ← p.readRequest? d with
    | none => pure (some 0)
    | some request =>
      match ← p.askCount d t request with
      | some n => pure (some n)
      | none => do pure (← whole.read d t).total
  else do pure (← whole.read d t).total

end Query

end EntityQuery
