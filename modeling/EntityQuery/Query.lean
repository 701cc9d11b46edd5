import EntityQuery.Filter.Basic
import EntityQuery.Sorter

/-!
# Queries

What to read from an entity, or what to write to it, without a word on how a service wants it
said.
-/

namespace EntityQuery

/-- A query. No attributes stand for all of them, and a limit of zero for no limit. -/
structure Query where
  entity : Entity
  attributes : List String := []
  filters : Group := .empty
  sorters : List Sorter := []
  offset : Int := 0
  limit : Int := 0
  rows : List Row := []
  deriving Inhabited

namespace Query

/-- The query with one more condition at the top. -/
def addCondition (q : Query) (name comparator : String) (value : Value) : Except Error Query := do
  let a ← q.entity.getAttribute name
  let c ← Comparator.parse comparator
  let new := Filter.condition { target := .attribute a, comparator := c, value := value }
  pure { q with filters := .mk q.filters.operator (q.filters.filters ++ [new]) q.filters.groups }

/-- The query with one more nested group. -/
def addGroup (q : Query) (g : Group) : Query :=
  { q with filters := .mk q.filters.operator q.filters.filters (q.filters.groups ++ [g]) }

/-- The query with one more sorter; the direction may be in any case. -/
def addSorter (q : Query) (name direction : String) : Except Error Query := do
  let d ← SortDirection.parse (Text.upper direction)
  let a ← q.entity.getAttribute name
  pure { q with sorters := q.sorters ++ [{ target := .attribute a, direction := d }] }

/-- The query with one more row to write. -/
def addRow (q : Query) (row : Row) : Query := { q with rows := q.rows ++ [row] }

/-- The query with one more attribute to read. -/
def addAttribute (q : Query) (name : String) : Query :=
  { q with attributes := q.attributes ++ [name] }

/-- The attributes to read, in order. -/
def selected (q : Query) : Except EntityFault (List Attribute) :=
  if q.attributes.isEmpty then .ok q.entity.attributes else q.attributes.mapM q.entity.getAttribute

/-- A row to write with its attributes. -/
def writtenRow (e : Entity) (row : Row) : Except EntityFault (List (Attribute × Value)) :=
  row.mapM fun entry => do pure (← e.getAttribute entry.1, entry.2)

/-- The rows to write with their attributes. -/
def writtenRows (q : Query) : Except EntityFault (List (List (Attribute × Value))) :=
  q.rows.mapM (writtenRow q.entity)

/-- The value of a row under a name, unless it is missing. -/
def present? (row : Row) (name : String) : Option Value :=
  (row.get? name).filter (!·.isMissing)

/-- The identifiers of the rows to write; without any, those that a filter names. -/
def uidValues (q : Query) : Except Error (List Value) :=
  match q.entity.uid? with
  | none => .ok []
  | some uid =>
    match q.rows.filterMap (present? · uid) with
    | [] =>
      match q.filters.find? uid with
      | some c => c.values
      | none => .ok []
    | values => .ok values

end Query

end EntityQuery
