import EntityQuery.Entity.DataType
import EntityQuery.Entity.Options

/-!
# Entities

A remote collection with its attributes. `Entity.read` loads one from its description and checks
it once: every attribute has a name and a known type, all options are valid, and the attribute
that identifies items exists.
-/

namespace EntityQuery

/-- One attribute of an entity. -/
structure Attribute where
  name : String
  dataAddress : String
  dataType : DataType := .string
  options : AttributeOptions := {}
  related : Bool := false
  deriving DecidableEq, Repr, Inhabited

/-- Whether an address names something remote: it is not empty and no formula. -/
def isRemoteAddress (address : String) : Bool := address != "" && !Text.startsWith "=" address

/-- Whether the attribute has a remote address. -/
def Attribute.hasRemoteAddress (a : Attribute) : Bool := isRemoteAddress a.dataAddress

/-- The path that reading follows. -/
def Attribute.readAddress (a : Attribute) : String :=
  (nonEmpty? a.options.readDataAddress).getD a.dataAddress

/-- A remote collection. Attributes are in order, each name once. -/
structure Entity where
  name : String
  dataAddress : String
  attributes : List Attribute := []
  uidName : Option String := none
  options : EntityOptions := {}
  deriving DecidableEq, Repr, Inhabited

namespace Entity

/-- The attribute with a name, if there is one. -/
def getAttribute? (e : Entity) (name : String) : Option Attribute :=
  e.attributes.find? (·.name == name)

/-- The attribute with a name. -/
def getAttribute (e : Entity) (name : String) : Except EntityFault Attribute :=
  match e.getAttribute? name with
  | some a => .ok a
  | none => .error (.unknownAttribute e.name name)

/-- The name that identifies items. -/
def uid? (e : Entity) : Option String := nonEmpty? e.uidName

/-- The attribute that identifies items. -/
def uidAttribute? (e : Entity) : Option Attribute := e.uid?.bind e.getAttribute?

/-- Sets an attribute. A name that is there keeps its place, a new one comes last. -/
def putAttribute : List Attribute → Attribute → List Attribute
  | [], a => [a]
  | b :: rest, a => if b.name = a.name then a :: rest else b :: putAttribute rest a

/-- A setting as text; nothing when it is unset, null or empty. -/
def settingText? (settings : Row) (name : String) : Option String :=
  match settings.get? name with
  | some v => if v.isTrue then some v.text else none
  | none => none

/-- A setting that is a map; empty when it is unset, null or empty. -/
def settingMap (settings : Row) (name : String) : Except Malformed Row :=
  match settings.get? name with
  | some (.map entries) => .ok entries
  | some v => if v.isTrue then .error .shape else .ok []
  | none => .ok []

/-- The descriptions of attributes: a list, or a map by name. -/
def attributeSettings (settings : Row) : Except Malformed (List Row) :=
  match settings.get? "attributes" with
  | some (.map entries) =>
    entries.mapM fun (name, v) =>
      match v with
      | .map raw => .ok (Row.put raw "alias" (.str name))
      | v => if v.isTrue then .error .shape else .ok [("alias", .str name)]
  | some (.list items) =>
    items.mapM fun
      | .map raw => .ok raw
      | _ => .error .shape
  | some v => if v.isTrue then .error .shape else .ok []
  | none => .ok []

/-- Reads the description of one attribute. -/
def readAttribute (entity : String) (settings : Row) : Except Error Attribute := do
  match settingText? settings "alias" with
  | none => throw (.entity (.attributeWithoutAlias entity))
  | some name =>
    let options ← (settingMap settings "options").mapError .malformed
    let (options, rejected) := (AttributeOptions.read options).run []
    if rejected ≠ [] then throw (.entity (.attributeOptions entity name rejected))
    let dataType ← DataType.parse ((settings.get? "data_type").getD .null)
    pure {
      name := name
      dataAddress := (settingText? settings "data_address").getD name
      dataType := dataType
      options := options
      related := ((settings.get? "related").map Value.isTrue).getD false }

/-- Loads an entity from its description. -/
def read (settings : Row) : Except Error Entity := do
  let name ←
    match (settingText? settings "alias").orElse fun _ => settingText? settings "data_address" with
    | some name => pure name
    | none => throw (.entity .noAddress)
  let raw ← (attributeSettings settings).mapError .malformed
  let attributes ←
    raw.foldlM (fun done a => do pure (putAttribute done (← readAttribute name a))) []
  let options ← (settingMap settings "options").mapError .malformed
  let (options, rejected) := (EntityOptions.read options).run []
  if rejected ≠ [] then throw (.entity (.entityOptions name rejected))
  let entity : Entity := {
    name := name
    dataAddress := (settingText? settings "data_address").getD ""
    attributes := attributes
    uidName := match settings.get? "uid" with
      | some (.str uid) => some uid
      | _ => settingText? settings "uid"
    options := options }
  match entity.uid? with
  | some uid =>
    if (entity.getAttribute? uid).isNone then throw (.entity (.unknownUid uid name))
    pure entity
  | none => pure entity

end Entity

end EntityQuery
