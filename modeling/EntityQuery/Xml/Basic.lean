import EntityQuery.Data.Value
import EntityQuery.Markup.Node

/-!
# Elements as values

An XML element as a map, so that paths work on it: its attributes under `@name`, its child elements
under their names, several of one name as a list, and its leading text under `#text`. An element
without attributes and child elements is its text.
-/

namespace EntityQuery.Xml

open Text Markup

/-- The part of a name `\x7bspace\x7dlocal` behind its namespace. -/
def localName (name : String) : String :=
  match cut? "\x7d" name with
  | some (_, rest) => rest
  | none => name

/-- Adds a child; one of a name that is there makes a list. -/
def addChild (row : Row) (name : String) (v : Value) : Row :=
  match row.get? name with
  | none => row.put name v
  | some (.list vs) => row.put name (.list (vs ++ [v]))
  | some w => row.put name (.list [w, v])

/-- The entries of attributes. -/
def attributeRow (attributes : Attributes) : Row :=
  Row.ofEntries (attributes.map fun a => ("@" ++ localName a.1, .str (a.2.getD "")))

mutual

/-- The value of an element. -/
def value : Node → Value
  | .element _ attributes children =>
    let text := trim (leadingText children)
    if attributes.isEmpty && !children.any (·.isElement) then
      if text = "" then .null else .str text
    else
      let row := addChildren (attributeRow attributes) children
      .map (if text = "" then row else row.put "#text" (.str text))
  | .text _ | .comment _ | .instruction _ => .null

/-- Adds the child elements of a list of nodes. -/
def addChildren : Row → List Node → Row
  | row, [] => row
  | row, n :: rest =>
    addChildren (match n.name? with
      | some name => addChild row (localName name) (value n)
      | none => row) rest

end

end EntityQuery.Xml
