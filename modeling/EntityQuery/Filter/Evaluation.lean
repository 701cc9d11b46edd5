import EntityQuery.Filter.Basic
import EntityQuery.Number.FloatText

/-!
# Evaluating filters on rows

What a condition means for a row that was read. Values that both read as numbers compare as
numbers, all others by their text. `Group.holds` says which rows a group accepts, `Group.fault?`
which rows it cannot be evaluated on, and `applyFilters` keeps the accepted ones.
-/

namespace EntityQuery

open Number Text

namespace Value

/-- The number that a text reads as. -/
def textNumber? (s : String) : Option Binary64 := floatOfText? (trim s)

/-- The number that a value reads as; truth values are none. -/
def number? : Value → Option Binary64
  | .int n => some (.ofInt n)
  | .float x => some x
  | .str s => textNumber? s
  | _ => none

/-- How two values compare. -/
def compare (a b : Value) : Ordering :=
  match a.number?, b.number? with
  | some x, some y => if y.lt x then .gt else if x.lt y then .lt else .eq
  | _, _ =>
    let s := a.text
    let t := b.text
    if t < s then .gt else if s < t then .lt else .eq

/-- Whether the value is a truth value. -/
def isBool : Value → Bool
  | .bool _ => true
  | _ => false

/-- Whether two values count as equal. Null equals only null, and truth values compare by their
text in any case. -/
def equals (a b : Value) : Bool :=
  match a, b with
  | .null, .null => true
  | .null, _ | _, .null => false
  | a, b =>
    if a.isBool || b.isBool then lower a.text == lower b.text else a.compare b == .eq

/-- Whether a value is like another: a text that is no number must contain it in any case, any
other value must equal it. Everything is like null and like the empty text. -/
def isLike (a b : Value) : Bool :=
  if b.isMissing then true
  else
    match a with
    | .null => false
    | .str s => if (textNumber? s).isNone then contains (lower b.text) (lower s) else a.equals b
    | a => a.equals b

/-- Whether the value is an integer out of the range of numbers, which cannot be compared. -/
def isOutOfRange : Value → Bool
  | .int n =>
    match Binary64.ofInt n with
    | .infinite _ => true
    | _ => false
  | _ => false

/-- Whether two values cannot be compared. -/
def incomparable (a b : Value) : Bool := a.isOutOfRange || b.isOutOfRange

/-- Whether a test for equality compares two values that cannot be compared. -/
def equalsFails (a b : Value) : Bool :=
  match a, b with
  | .null, _ | _, .null => false
  | a, b => !(a.isBool || b.isBool) && a.incomparable b

/-- Whether a test for likeness compares two values that cannot be compared. -/
def isLikeFails (a b : Value) : Bool :=
  if b.isMissing then false
  else
    match a with
    | .null => false
    | .str s => if (textNumber? s).isNone then false else a.equalsFails b
    | a => a.equalsFails b

/-- Whether a search for a value meets one that it cannot be compared with before it ends. -/
def searchFails (a : Value) : List Value → Bool
  | [] => false
  | v :: rest => a.equalsFails v || (!a.equals v && searchFails a rest)

end Value

/-- Whether a row meets a condition. -/
def Condition.holds (row : Row) (c : Condition) : Bool :=
  let actual := (row.get? c.name).getD .null
  let ordered (accept : Ordering → Bool) : Bool :=
    !actual.isMissing && accept (actual.compare c.value)
  match c.comparator with
  | .equals => actual.equals c.value
  | .notEquals => !actual.equals c.value
  | .is => actual.isLike c.value
  | .isNot => !actual.isLike c.value
  | .isIn => c.members.any actual.equals
  | .notIn => !c.members.any actual.equals
  | .greaterThan => ordered (· == .gt)
  | .greaterOrEqual => ordered (· != .lt)
  | .lessThan => ordered (· == .lt)
  | .lessOrEqual => ordered (· != .gt)

/-- What an operator makes of the results of its members; no members mean no restriction, and an
exclusive or asks for exactly one. -/
def LogicalOperator.combine (op : LogicalOperator) (results : List Bool) : Bool :=
  if results.isEmpty then true
  else
    match op with
    | .and => results.all id
    | .or => results.any id
    | .xor => results.count true == 1

mutual

/-- Whether a row is accepted by a group. Empty nested groups do not take part. -/
def Group.holds (row : Row) : Group → Bool
  | .mk op fs gs => op.combine (filterResults row fs ++ groupResults row gs)

/-- Whether a row is accepted by a filter. -/
def Filter.holds (row : Row) : Filter → Bool
  | .condition c => c.holds row
  | .compound g _ => g.holds row

/-- What filters say of a row, in order. -/
def filterResults (row : Row) : List Filter → List Bool
  | [] => []
  | f :: fs => f.holds row :: filterResults row fs

/-- What the nested groups that are not empty say of a row, in order. -/
def groupResults (row : Row) : List Group → List Bool
  | [] => []
  | g :: gs => if g.isEmpty then groupResults row gs else g.holds row :: groupResults row gs

end

/-- Why a condition cannot be evaluated on a row: its values cannot be split, or not compared with
that of the row. -/
def Condition.fault? (row : Row) (c : Condition) : Option Error :=
  let actual := (row.get? c.name).getD .null
  let fails : Bool :=
    match c.comparator with
    | .equals | .notEquals => actual.equalsFails c.value
    | .is | .isNot => actual.isLikeFails c.value
    | .isIn | .notIn => actual.searchFails c.members
    | .greaterThan | .greaterOrEqual | .lessThan | .lessOrEqual =>
      !actual.isMissing && actual.incomparable c.value
  if c.lacksDelimiter then some (.malformed .separator)
  else if fails then some (.codec .infinite "")
  else none

/-- Why a group cannot be evaluated on a row. All conditions are evaluated in order, whatever
those before them say. -/
def Group.fault? (row : Row) (g : Group) : Option Error := g.leaves.findSome? (·.fault? row)

/-- Whether a row is accepted by a group that can be evaluated on it. -/
def Group.test (row : Row) (g : Group) : Except Error Bool :=
  match g.fault? row with
  | some e => .error e
  | none => .ok (g.holds row)

/-- The rows that a group accepts, tested one by one. -/
def applyFilters (g : Group) : List Row → Except Error (List Row)
  | [] => .ok []
  | row :: rows => do
    let accepted ← g.test row
    let rest ← applyFilters g rows
    pure (if accepted then row :: rest else rest)

end EntityQuery
