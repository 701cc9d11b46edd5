import EntityQuery.Data.Path

/-!
# Row containers

A decoded body holds one row, many rows or none. `Container.normalize` classifies a candidate: a
map is one row unless its keys show that it is a keyed list of rows.
-/

namespace EntityQuery

open Text

/-- What a body holds. -/
inductive Container where
  | empty
  | single (row : Row)
  | many (rows : List Value)
  deriving Inhabited

namespace Container

/-- The rows, whatever they are. -/
def rows : Container → List Value
  | .empty => []
  | .single row => [.map row]
  | .many rows => rows

/-- The rows that are maps. -/
def rowMaps (c : Container) : List Row :=
  c.rows.filterMap fun
    | .map entries => some entries
    | _ => none

/-- Whether a name is made of digits. -/
def isNumbered (name : String) : Bool := !name.isEmpty && name.toList.all isDigit

/-- Classifies a candidate. A map whose keys are all digits is a list of rows; with `keyedRows`
so is a map that holds only maps. -/
def normalize (keyedRows : Bool) : Value → Container
  | .map [] => .empty
  | .map entries =>
    if entries.all (isNumbered ·.1) then .many (entries.map Prod.snd)
    else if keyedRows && entries.all (·.2.isMap) then .many (entries.map Prod.snd)
    else .single entries
  | .list [] => .empty
  | .list items => .many items
  | _ => .empty

end Container

/-- The integer that a counter stands for; nothing when it is missing or malformed. A text of
digits that form no numeral is an error. -/
def parseCount : Value → Except Malformed (Option Int)
  | .int n => .ok (some n)
  | .float x => .ok (if x.isInteger then x.truncate? else none)
  | .str s =>
    let t := trim s
    if Container.isNumbered t then
      match Number.integerOfText? t with
      | some n => .ok (some n)
      | none => .error .number
    else .ok none
  | _ => .ok none

end EntityQuery
