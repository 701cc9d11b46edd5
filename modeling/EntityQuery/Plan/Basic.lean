import EntityQuery.Dialect.Paging
import EntityQuery.Query

/-!
# Plans

A query divided into what the service does and what is done after reading. Attributes that the
second part needs are read along.
-/

namespace EntityQuery

/-- A query with its filters and sorters divided. The attributes of `query` include those needed
after reading. -/
structure Plan where
  query : Query
  remote : Group := .empty
  localFilters : Group := .empty
  sorters : List Sorter := []
  localSorters : List Sorter := []
  deriving Inhabited

/-- Where a condition stands: its number among those sent or among those evaluated after reading. -/
inductive Place where
  | remote (index : Nat)
  | locally (index : Nat)
  deriving DecidableEq, Repr, Inhabited

/-- A condition with its place. -/
abbrev Located := Place × Condition

namespace Query

/-- The names that evaluation after reading needs. -/
def neededNames (q : Query) (localFilters : Group) (localSorters : List Sorter) : List String :=
  (localFilters.leaves.filterMap fun c => c.target.attribute?.map (·.name))
    ++ (localSorters.filterMap fun s => s.target.attribute?.map (·.name))
    ++ (nonEmpty? q.entity.options.responseGroupByAttributeAlias).toList

/-- A selection with further names that the entity has, each once; an empty selection stands for
everything and stays empty. -/
def extendSelection (q : Query) (needed : List String) : List String :=
  if q.attributes.isEmpty then []
  else
    needed.foldl (fun done name =>
      if name ∉ done ∧ (q.entity.getAttribute? name).isSome then done ++ [name] else done)
      q.attributes

end Query

namespace Plan

/-- Divides a query for a dialect. -/
def of (d : Dialect) (q : Query) : Except Error Plan := do
  let filters ← q.filters.split d.filterStyle
  let sorters := d.sortStyle.split q.sorters
  pure {
    query := { q with
      attributes := q.extendSelection (q.neededNames filters.locally sorters.locally) }
    remote := filters.remote
    localFilters := filters.locally
    sorters := sorters.remote
    localSorters := sorters.locally }

/-- The entity of the query. -/
def entity (p : Plan) : Entity := p.query.entity

/-- The options of the entity. -/
def options (p : Plan) : EntityOptions := p.query.entity.options

/-- The conditions that every row must meet, those sent first. -/
def topLevel (p : Plan) : List Located :=
  (p.remote.topLevel.map fun (i, c) => (.remote i, c))
    ++ (p.localFilters.topLevel.map fun (i, c) => (.locally i, c))

/-- The condition over a name; `uid` stands for the attribute that identifies items. -/
def find? (p : Plan) (name : String) : Option Condition :=
  let n := Text.lower name
  let name := if n = "uid" ∨ n = "~uid" then p.entity.uid?.getD name else name
  (p.remote.find? name).or (p.localFilters.find? name)

/-- Whether a condition can switch the endpoint to single items. -/
def namesItems (uid : String) (c : Condition) : Except Error Bool := do
  if c.name = uid ∧ (c.comparator = .equals ∨ c.comparator = .isIn) then
    pure !(← c.values).isEmpty
  else pure false

/-- The first condition that can switch the endpoint to single items. -/
def firstNaming (uid : String) : List Located → Except Error (Option Located)
  | [] => .ok none
  | l :: rest => do if ← namesItems uid l.2 then pure (some l) else firstNaming uid rest

/-- The condition that switches the endpoint to single items. -/
def itemCondition? (p : Plan) : Except Error (Option Located) :=
  match nonEmpty? p.options.uidRequestDataAddress, p.entity.uid? with
  | some _, some uid => firstNaming uid p.topLevel
  | _, _ => .ok none

/-- Whether the request is for single items. -/
def isItemScoped (p : Plan) : Except Error Bool := do pure (← p.itemCondition?).isSome

/-- Whether the service cuts the window: only when nothing is left to be done after reading. -/
def pagesRemotely (p : Plan) (d : Dialect) : Except Error Bool := do
  if !d.pagesRemotely p.options then pure false
  else if !p.localFilters.isEmpty || !p.localSorters.isEmpty then pure false
  else pure (← p.itemCondition?).isNone

end Plan

end EntityQuery
