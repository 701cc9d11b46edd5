import EntityQuery.Gateway.Check
import EntityQuery.Query
import EntityQuery.Write

/-!
# Forms

The bodies that the gateway accepts: a query in plain data, and what each route asks for beside it.
-/

namespace EntityQuery

/-- A condition in a form. -/
structure ConditionForm where
  name : String
  comparator : String := "EQUALS"
  value : Value := .null
  deriving Inhabited

/-- A group of conditions in a form. -/
inductive GroupForm where
  | mk (operator : LogicalOperator) (conditions : List ConditionForm) (groups : List GroupForm)
  deriving Inhabited

/-- A sorter in a form. -/
structure SorterForm where
  name : String
  direction : SortDirection := .asc
  deriving Inhabited

/-- A query in a form. -/
structure QueryForm where
  dialect : String
  entity : Row
  attributes : List String
  filters : Option GroupForm
  sorters : List SorterForm
  offset : Int
  limit : Int
  rows : List Row
  deriving Inhabited

/-- A query with the operation that it is compiled for; a read when there is none. -/
structure CompileForm where
  query : QueryForm
  operation : Option Operation

/-- A query with the body that its rows are read from: a value, or a text. -/
structure ExtractForm where
  query : QueryForm
  body : Value
  text : Option String
  itemScoped : Bool

/-- The entity of a form that names none. -/
def exampleEntity : Row := [
  ("alias", .str "Order"),
  ("data_address", .str "Orders"),
  ("uid", .str "OrderID"),
  ("attributes", .list [
    .map [("alias", .str "OrderID"), ("data_type", .str "INTEGER")],
    .map [("alias", .str "Status")],
    .map [("alias", .str "Customer"), ("data_address", .str "Customer/Name")]])]

/-- The operators of a form. -/
def operatorWords : List (String × LogicalOperator) :=
  [("AND", .and), ("OR", .or), ("XOR", .xor)]

/-- The directions of a form. -/
def directionWords : List (String × SortDirection) := [("ASC", .asc), ("DESC", .desc)]

/-- The operations of a form. -/
def operationWords : List (String × Option Operation) :=
  [("read", none), ("create", some .create), ("update", some .update), ("delete", some .delete)]

/-- Reads a condition. -/
def ConditionForm.read (v : Value) : Check ConditionForm :=
  match v with
  | .map form =>
    mk <$> .member form "attribute" none Check.text
      <*> .member form "comparator" (some "EQUALS") Check.text
      <*> .member form "value" (some .null) .valid
  | _ => .fault

mutual

/-- Reads a group. -/
def GroupForm.read : Value → Check GroupForm
  | .map form =>
    mk <$> .member form "operator" (some .and) (.word operatorWords)
      <*> .member form "conditions" (some []) (.list ConditionForm.read)
      <*> GroupForm.readMember form
  | _ => .fault

/-- Reads the nested groups of a group. -/
def GroupForm.readMember : Row → Check (List GroupForm)
  | [] => .valid []
  | (name, v) :: rest =>
    if name = "groups" then
      match v with
      | .list groups => (GroupForm.readAll 0 groups).under "groups"
      | _ => .faulty [["groups"]]
    else GroupForm.readMember rest

/-- Reads groups from a number on. -/
def GroupForm.readAll : Nat → List Value → Check (List GroupForm)
  | _, [] => .valid []
  | n, v :: rest =>
    List.cons <$> (GroupForm.read v).under (Number.natText n) <*> GroupForm.readAll (n + 1) rest

end

/-- Reads a sorter. -/
def SorterForm.read (v : Value) : Check SorterForm :=
  match v with
  | .map form =>
    mk <$> .member form "attribute" none Check.text
      <*> .member form "direction" (some .asc) (.word directionWords)
  | _ => .fault

/-- Reads the filters of a query. -/
def GroupForm.read? (v : Value) : Check (Option GroupForm) :=
  match v with
  | .null => .valid none
  | v => some <$> GroupForm.read v

namespace QueryForm

/-- Reads a query. -/
def readMembers (form : Row) : Check QueryForm :=
  mk <$> .member form "dialect" (some "odata2") Check.text
    <*> .member form "entity" (some exampleEntity) Check.map
    <*> .member form "attributes" (some []) (.list Check.text)
    <*> .member form "filters" (some none) GroupForm.read?
    <*> .member form "sorters" (some []) (.list SorterForm.read)
    <*> .member form "offset" (some 0) Check.natural
    <*> .member form "limit" (some 0) Check.natural
    <*> .member form "rows" (some []) (.list Check.map)

/-- Reads a form with a query. -/
def read (v : Value) : Check QueryForm :=
  match v with
  | .map form => readMembers form
  | _ => .fault

end QueryForm

/-- Reads a form to compile. -/
def CompileForm.read (v : Value) : Check CompileForm :=
  match v with
  | .map form =>
    mk <$> QueryForm.readMembers form
      <*> .member form "operation" (some none) (.word operationWords)
  | _ => .fault

/-- Reads a form to extract rows. -/
def ExtractForm.read (v : Value) : Check ExtractForm :=
  match v with
  | .map form =>
    mk <$> QueryForm.readMembers form
      <*> .member form "body" (some .null) .valid
      <*> .member form "text" (some none) Check.text?
      <*> .member form "uid_scoped" (some false) Check.truth
  | _ => .fault

/-- The condition over an attribute of an entity. -/
def ConditionForm.filter (e : Entity) (c : ConditionForm) : Except Error Filter := do
  let a ← e.getAttribute c.name
  let comparator ← Comparator.parse c.comparator
  pure (.condition { target := .attribute a, comparator := comparator, value := c.value })

mutual

/-- The group over the attributes of an entity. -/
def GroupForm.group (e : Entity) : GroupForm → Except Error Group
  | .mk operator conditions groups => do
    let filters ← conditions.mapM (·.filter e)
    pure (.mk operator filters (← GroupForm.groups e groups))

/-- The groups over the attributes of an entity. -/
def GroupForm.groups (e : Entity) : List GroupForm → Except Error (List Group)
  | [] => .ok []
  | g :: rest => do
    let group ← g.group e
    pure (group :: (← GroupForm.groups e rest))

end

/-- The query of a form. -/
def QueryForm.query (f : QueryForm) : Except Error Query := do
  let e ← Entity.read f.entity
  let filters ← match f.filters with
    | some g => g.group e
    | none => pure .empty
  let sorters ← f.sorters.mapM fun s => do
    pure { target := .attribute (← e.getAttribute s.name), direction := s.direction : Sorter }
  pure {
    entity := e, attributes := f.attributes, filters := filters, sorters := sorters,
    offset := f.offset, limit := f.limit, rows := f.rows }

end EntityQuery
