import EntityQuery.Body.Basic
import EntityQuery.Data.Container
import EntityQuery.Html.Table
import EntityQuery.Plan.Read
import EntityQuery.Write

/-!
# Rows of bodies

Where the rows of a body are, what each attribute reads in a row, and the counter beside the rows.
-/

namespace EntityQuery

open Text

/-- The value of a row under the address of an attribute. -/
def Attribute.read (a : Attribute) (raw : Row) : Except Error Value := do
  pure (← Path.find (.map raw) a.readAddress)

/-- The text of an item in a joined list. -/
def Value.itemText : Value → String
  | .null => ""
  | v => v.text

/-- Whether a value is neither a map nor a list. -/
def Value.isScalar (v : Value) : Bool := !v.isMap && !v.isList

/-- A list of scalars as one text. -/
def Attribute.joined (a : Attribute) : Value → Value
  | .list vs =>
    if vs.all (·.isScalar) then .str (join a.options.valueListDelimiter (vs.map (·.itemText)))
    else .list vs
  | v => v

namespace Body

/-- The path to the rows that the entity gives. -/
def rowsPath? (d : Dialect) (e : Entity) (itemScoped : Bool) : Option String :=
  match d with
  | .graphql =>
    (nonEmpty? e.options.responseDataPath).or (some ("data/" ++ Graphql.readOperation e))
  | _ =>
    let own := if itemScoped then nonEmpty? e.options.uidResponseDataPath else none
    own.or (nonEmpty? e.options.responseDataPath)

/-- Where the rows are when the entity gives no path. -/
def defaultContainer (d : Dialect) (v : Value) : Container :=
  match d with
  | .odata2 =>
    match v.get? "d" with
    | some d =>
      match d.get? "results" with
      | some (.list items) => .normalize false (.list items)
      | _ => .normalize false d
    | none => .empty
  | .odata4 | .odata =>
    match v with
    | .map entries =>
      match entries.lookup "value" with
      | some rows => .normalize false rows
      | none => .normalize false (.map (entries.filter fun e => !startsWith "@odata." e.1))
    | v => .normalize false v
  | .xml =>
    match v with
    | .map [(_, .list items)] => .normalize false (.list items)
    | v => .normalize false v
  | _ => .normalize false v

/-- The rows of a value. A map of maps is a list of rows unless a single item was asked for. -/
def container (d : Dialect) (e : Entity) (itemScoped : Bool) (v : Value) :
    Except Error Container :=
  match v with
  | .null => .ok .empty
  | v =>
    match rowsPath? d e itemScoped with
    | some path => do pure (.normalize (!itemScoped) (← Path.find v path))
    | none => .ok (defaultContainer d v)

/-- A row under the names of attributes. -/
def mapRow (d : Dialect) (attributes : List Attribute) (read : Attribute → Except Error Value) :
    Except Error Row :=
  attributes.foldlM (fun row a => do
    if !a.hasRemoteAddress then pure row
    else pure (row.put a.name (← d.codec.decodeFromBody (a.joined (← read a))))) []

/-- The rows of a body under the names of the attributes to read. -/
def rows (b : Body) (d : Dialect) (q : Query) (itemScoped : Bool) : Except Error (List Row) := do
  let attributes ← q.selected
  match b with
  | .data v =>
    let c ← container d q.entity itemScoped v
    c.rowMaps.mapM fun raw => mapRow d attributes (·.read raw)
  | .page text url => do
    let c ← Html.container text url attributes
    c.rowMaps.mapM fun raw => mapRow d attributes fun a => pure ((raw.get? a.name).getD .null)

/-- The path to the counter. -/
def countPath? (d : Dialect) (e : Entity) : Option String :=
  match d with
  | .html => none
  | d =>
    (nonEmpty? e.options.responseTotalCountPath).or (match d with
      | .odata2 => some "d/__count"
      | .odata4 | .odata => some "@odata.count"
      | _ => none)

/-- The counter of a body. -/
def count (b : Body) (d : Dialect) (e : Entity) : Except Error (Option Int) :=
  match b, countPath? d e with
  | .data .null, _ | .page _ _, _ | _, none => .ok none
  | .data v, some path => do
    match parseCount (← Path.find v path) with
    | .ok n => pure n
    | .error m => throw (.malformed m)

/-- The item that the answer to a creation holds. -/
def createdItem? (d : Dialect) (e : Entity) (v : Value) : Except Error (Option Row) :=
  match nonEmpty? e.options.createRequestDataPath with
  | some path => do
    match ← Path.find v path with
    | .map entries => pure (some entries)
    | _ => pure none
  | none =>
    match (defaultContainer d v).rows with
    | .map entries :: _ => .ok (some entries)
    | _ => .ok none

/-- The identifier of a new item in the answer to its creation; null where there is none. -/
def createdId (d : Dialect) (e : Entity) (v : Value) : Except Error Value :=
  match d with
  | .graphql => do
    let name ← Query.createMutation e
    let uid ← Query.uidField e
    pure (← Path.find v ("data/" ++ name ++ "/" ++ uid))
  | d =>
    match e.uidAttribute?, v with
    | none, _ | _, .null => .ok .null
    | some uid, v => do
      match ← createdItem? d e v with
      | none => pure .null
      | some item => match d with
        | .html => pure ((item.get? uid.name).getD .null)
        | _ => uid.read item

end Body

end EntityQuery
