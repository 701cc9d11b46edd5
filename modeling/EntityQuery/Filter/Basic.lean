import EntityQuery.Entity.Basic

/-!
# Filters

A filter is a condition on one attribute, or a compound one that wraps a group. A group joins
filters and nested groups by one operator. The conditions of a group are numbered depth first,
filters before nested groups (`Group.leaves`), and a number is how one of them is told from an
equal one.
-/

namespace EntityQuery

open Text

/-- How a value is compared. -/
inductive Comparator where
  | equals
  | notEquals
  | greaterThan
  | greaterOrEqual
  | lessThan
  | lessOrEqual
  | is
  | isNot
  | isIn
  | notIn
  deriving DecidableEq, Repr, Inhabited

namespace Comparator

/-- All comparators with their names and symbols. -/
def named : List (String × String × Comparator) :=
  [("EQUALS", "==", .equals), ("NOT_EQUALS", "!==", .notEquals),
   ("GREATER_THAN", ">", .greaterThan), ("GREATER_OR_EQUAL", ">=", .greaterOrEqual),
   ("LESS_THAN", "<", .lessThan), ("LESS_OR_EQUAL", "<=", .lessOrEqual),
   ("IS", "=", .is), ("IS_NOT", "!=", .isNot), ("IN", "[", .isIn), ("NOT_IN", "![", .notIn)]

/-- The name of a comparator. -/
def name : Comparator → String
  | .equals => "EQUALS"
  | .notEquals => "NOT_EQUALS"
  | .greaterThan => "GREATER_THAN"
  | .greaterOrEqual => "GREATER_OR_EQUAL"
  | .lessThan => "LESS_THAN"
  | .lessOrEqual => "LESS_OR_EQUAL"
  | .is => "IS"
  | .isNot => "IS_NOT"
  | .isIn => "IN"
  | .notIn => "NOT_IN"

/-- Whether the comparator takes a list of values. -/
def isMembership : Comparator → Bool
  | .isIn | .notIn => true
  | _ => false

/-- The comparator that a text names, by name in any case or by symbol. -/
def parse (text : String) : Except Error Comparator :=
  let t := trim text
  match named.find? (·.1 == upper t) with
  | some (_, _, c) => .ok c
  | none =>
    match named.find? (·.2.1 == t) with
    | some (_, _, c) => .ok c
    | none => .error (.name (.comparator text))

end Comparator

/-- How the members of a group are joined. -/
inductive LogicalOperator where
  | and
  | or
  | xor
  deriving DecidableEq, Repr, Inhabited

/-- The name of an operator. -/
def LogicalOperator.name : LogicalOperator → String
  | .and => "AND"
  | .or => "OR"
  | .xor => "XOR"

/-- The operator with a name. -/
def LogicalOperator.parse : String → Except Error LogicalOperator
  | "AND" => .ok .and
  | "OR" => .ok .or
  | "XOR" => .ok .xor
  | _ => .error (.malformed .name)

/-- Which end comes first. -/
inductive SortDirection where
  | asc
  | desc
  deriving DecidableEq, Repr, Inhabited

/-- The name of a direction. -/
def SortDirection.name : SortDirection → String
  | .asc => "ASC"
  | .desc => "DESC"

/-- The direction with a name. -/
def SortDirection.parse : String → Except Error SortDirection
  | "ASC" => .ok .asc
  | "DESC" => .ok .desc
  | _ => .error (.malformed .name)

/-- What a condition or a sorter is about: a described attribute, or a remote field by itself. -/
inductive Target where
  | attribute (a : Attribute)
  | address (field : String)
  deriving DecidableEq, Repr, Inhabited

namespace Target

/-- The name in rows. -/
def name : Target → String
  | .attribute a => a.name
  | .address field => field

/-- The remote field. -/
def dataAddress : Target → String
  | .attribute a => a.dataAddress
  | .address field => field

/-- The type of the values. -/
def dataType : Target → DataType
  | .attribute a => a.dataType
  | .address _ => .string

/-- The options of the attribute; a field by itself has none set. -/
def options : Target → AttributeOptions
  | .attribute a => a.options
  | .address _ => {}

/-- The attribute, if it is described. -/
def attribute? : Target → Option Attribute
  | .attribute a => some a
  | .address _ => none

/-- Whether there is a remote field. -/
def isRemote (t : Target) : Bool := isRemoteAddress t.dataAddress

end Target

/-- One condition. `applyLocally` marks it for evaluation after reading. -/
structure Condition where
  target : Target
  comparator : Comparator := .equals
  value : Value := .null
  applyLocally : Bool := false
  deriving Inhabited

namespace Condition

/-- The name in rows. -/
def name (c : Condition) : String := c.target.name

/-- The options of the attribute. -/
def options (c : Condition) : AttributeOptions := c.target.options

/-- The values compared with: the items of a list, the parts of a delimited text where membership
is asked for, or the value itself. Null and the empty text are no values. -/
def members (c : Condition) : List Value :=
  match c.value with
  | .null => []
  | .list items => items.filter (!·.isMissing)
  | .str s =>
    if s = "" then []
    else if c.comparator.isMembership then
      ((splitOn c.options.valueListDelimiter s).map trim).filterMap fun part =>
        if part = "" then none else some (.str part)
    else [.str s]
  | v => [v]

/-- Whether the values are a text that an empty delimiter would have to split. -/
def lacksDelimiter (c : Condition) : Bool :=
  match c.value with
  | .str s => s != "" && c.comparator.isMembership && c.options.valueListDelimiter == ""
  | _ => false

/-- The values compared with. Splitting by an empty delimiter is an error. -/
def values (c : Condition) : Except Error (List Value) :=
  if c.lacksDelimiter then .error (.malformed .separator) else .ok c.members

/-- The condition as messages show it. -/
def shown (c : Condition) : String :=
  c.name ++ " " ++ c.comparator.name ++ " " ++ c.value.shown

/-- A membership test with exactly one value, as a test for equality with it; any other condition
as it is. -/
def simplify (c : Condition) : Condition :=
  match c.comparator, c.members with
  | .isIn, [v] => { c with comparator := .equals, value := v }
  | .notIn, [v] => { c with comparator := .notEquals, value := v }
  | _, _ => c

end Condition

mutual

/-- A condition, or a group that stands for one. -/
inductive Filter where
  | condition (c : Condition)
  | compound (group : Group) (applyLocally : Bool)

/-- Filters and nested groups joined by one operator. -/
inductive Group where
  | mk (operator : LogicalOperator) (filters : List Filter) (groups : List Group)

end

namespace Group

/-- The operator that joins the members. -/
def operator : Group → LogicalOperator
  | .mk op _ _ => op

/-- The filters of the group itself. -/
def filters : Group → List Filter
  | .mk _ fs _ => fs

/-- The nested groups. -/
def groups : Group → List Group
  | .mk _ _ gs => gs

/-- The group that holds nothing. -/
def empty : Group := .mk .and [] []

instance : Inhabited Group := ⟨empty⟩

mutual

/-- Whether a group holds no filter, at any depth of nesting. -/
def isEmpty : Group → Bool
  | .mk _ fs gs => fs.isEmpty && allEmpty gs

/-- Whether all groups are empty. -/
def allEmpty : List Group → Bool
  | [] => true
  | g :: gs => g.isEmpty && allEmpty gs

end

end Group

mutual

/-- The conditions of a group, depth first. -/
def Group.leaves : Group → List Condition
  | .mk _ fs gs => leavesOfFilters fs ++ leavesOfGroups gs

/-- The conditions of a filter. -/
def Filter.leaves : Filter → List Condition
  | .condition c => [c]
  | .compound g _ => g.leaves

/-- The conditions of filters, in order. -/
def leavesOfFilters : List Filter → List Condition
  | [] => []
  | f :: fs => f.leaves ++ leavesOfFilters fs

/-- The conditions of groups, in order. -/
def leavesOfGroups : List Group → List Condition
  | [] => []
  | g :: gs => g.leaves ++ leavesOfGroups gs

end

mutual

/-- The group as messages show it; members in parentheses are groups. -/
def Group.shown : Group → String
  | .mk op fs gs => join (" " ++ op.name ++ " ") (shownFilters fs ++ shownGroups gs)

/-- The filter as messages show it. -/
def Filter.shown : Filter → String
  | .condition c => c.shown
  | .compound g _ => "(" ++ g.shown ++ ")"

/-- Filters as messages show them. -/
def shownFilters : List Filter → List String
  | [] => []
  | f :: fs => f.shown :: shownFilters fs

/-- Nested groups as messages show them. -/
def shownGroups : List Group → List String
  | [] => []
  | g :: gs => ("(" ++ g.shown ++ ")") :: shownGroups gs

end

namespace Group

/-- The first condition over a name, whatever its case. -/
def find? (g : Group) (name : String) : Option Condition :=
  g.leaves.find? fun c => lower c.name == lower name

/-- The group without redundant nesting: while it has no filters of its own and one nested group,
that group takes its place. -/
def flatten : Group → Group
  | .mk _ [] [g] => g.flatten
  | g => g

/-- The filters left when conditions are dropped by number, `start` being the number of the
first. A compound filter stays as it is. -/
def keepFilters (drop : Nat → Bool) : (start : Nat) → List Filter → List Filter
  | _, [] => []
  | start, .condition c :: fs =>
    if drop start then keepFilters drop (start + 1) fs
    else .condition c :: keepFilters drop (start + 1) fs
  | start, .compound g l :: fs => .compound g l :: keepFilters drop (start + g.leaves.length) fs

mutual

/-- The group without the conditions of given numbers. -/
def withoutFrom (drop : Nat → Bool) (start : Nat) : Group → Group
  | .mk op fs gs =>
    .mk op (keepFilters drop start fs) (withoutGroups drop (start + (leavesOfFilters fs).length) gs)

/-- Nested groups without the conditions of given numbers. -/
def withoutGroups (drop : Nat → Bool) (start : Nat) : List Group → List Group
  | [] => []
  | g :: gs => g.withoutFrom drop start :: withoutGroups drop (start + g.leaves.length) gs

end

/-- The group without the conditions of given numbers. -/
def without (g : Group) (drop : List Nat) : Group := g.withoutFrom (· ∈ drop) 0

mutual

/-- The group with the conditions of given numbers replaced by a filter. -/
def replaceFrom (old : Nat → Bool) (new : Filter) (start : Nat) : Group → Group
  | .mk op fs gs =>
    .mk op (replaceFilters old new start fs)
      (replaceGroups old new (start + (leavesOfFilters fs).length) gs)

/-- Filters with the conditions of given numbers replaced. -/
def replaceFilters (old : Nat → Bool) (new : Filter) (start : Nat) : List Filter → List Filter
  | [] => []
  | .condition c :: fs =>
    (if old start then new else .condition c) :: replaceFilters old new (start + 1) fs
  | .compound g l :: fs =>
    .compound (g.replaceFrom old new start) l
      :: replaceFilters old new (start + g.leaves.length) fs

/-- Nested groups with the conditions of given numbers replaced. -/
def replaceGroups (old : Nat → Bool) (new : Filter) (start : Nat) : List Group → List Group
  | [] => []
  | g :: gs =>
    g.replaceFrom old new start :: replaceGroups old new (start + g.leaves.length) gs

end

/-- The group with the condition of a number replaced by a filter. -/
def replace (g : Group) (index : Nat) (new : Filter) : Group := g.replaceFrom (· = index) new 0

/-- The direct filters that are conditions, each with its number. -/
def numberedFrom : (start : Nat) → List Filter → List (Nat × Condition)
  | _, [] => []
  | start, .condition c :: fs => (start, c) :: numberedFrom (start + 1) fs
  | start, .compound g _ :: fs => numberedFrom (start + g.leaves.length) fs

/-- The conditions that every row must meet: the direct ones of a conjunction, numbered. -/
def topLevel (g : Group) : List (Nat × Condition) :=
  if g.operator = .and then numberedFrom 0 g.filters else []

end Group

mutual

/-- The group with every filter marked for evaluation after reading. -/
def Group.markLocal : Group → Group
  | .mk op fs gs => .mk op (markFilters fs) (markGroups gs)

/-- The filter marked for evaluation after reading. -/
def Filter.markLocal : Filter → Filter
  | .condition c => .condition { c with applyLocally := true }
  | .compound g _ => .compound g.markLocal true

/-- Filters marked for evaluation after reading. -/
def markFilters : List Filter → List Filter
  | [] => []
  | f :: fs => f.markLocal :: markFilters fs

/-- Groups marked for evaluation after reading. -/
def markGroups : List Group → List Group
  | [] => []
  | g :: gs => g.markLocal :: markGroups gs

end

end EntityQuery
