import EntityQuery.Remote.Expression
import EntityQuery.Sorter
import EntityQuery.Url.Query

/-!
# Filters and sorters as parameters

What a style sends for a group, and how dialects name a sort order. Once one sorter has to be
applied after reading, all of them are, so that the combined order stays intact.
-/

namespace EntityQuery

open Text

/-- The arguments of a query document, each name once. -/
def Group.arguments (t : FilterStyle) (g : Group) : Row :=
  Row.ofEntries (g.leaves.filterMap fun c => (t.remoteParameter? c).map fun p => (p, c.value))

/-- The value that a condition is sent with in a parameter of its own; the members of a list are
joined by a plus sign. -/
def Condition.parameterValue (t : FilterStyle) (c : Condition) : Except Error String := do
  let lead := c.options.filterRemotePrefix.getD ""
  if c.value.isList || c.comparator.isMembership then
    pure (lead ++ join "+" (← (← c.values).mapM (c.literal t)))
  else pure (lead ++ (← c.literal t c.value))

/-- The parameter of a condition; none for a condition that only switches the endpoint. -/
def Condition.parameter? (t : FilterStyle) (c : Condition) :
    Except Error (Option (String × Option String)) :=
  match t.remoteParameter? c with
  | none => .ok none
  | some name => do pure (some (name, some (← c.parameterValue t)))

/-- The parameters that a style sends for a group. -/
def Group.parameters (t : FilterStyle) (g : Group) : Except Error Url.Params :=
  match t with
  | .urlParameters => do pure ((← g.leaves.mapM (Condition.parameter? t)).filterMap id)
  | .arguments => .ok ((g.arguments t).map fun e => (e.1, some e.2.text))
  | t => do
    match ← g.expression? t with
    | none => pure []
    | some chain => pure [("$filter", some chain.text)]

/-- How a dialect names a sort order. -/
inductive SortStyle where
  | fields
  | directions
  deriving DecidableEq, Repr, Inhabited

namespace SortStyle

/-- The parameter of a sort order. -/
def parameter : SortStyle → String
  | .fields => "sort"
  | .directions => "$orderby"

/-- Whether a sorter is to be sent. -/
def isRemote (style : SortStyle) (s : Sorter) : Bool :=
  match s.target.options.sortRemote with
  | some b => b
  | none =>
    (nonEmpty? s.target.options.sortRemoteUrlParam).isSome
      || (style = .directions && s.target.isRemote)

/-- The field that a sorter is sent with. -/
def fieldOf (s : Sorter) : String :=
  (nonEmpty? s.target.options.sortRemoteUrlParam).getD s.target.dataAddress

/-- One sorter as text. -/
def item (style : SortStyle) (s : Sorter) : String :=
  match style with
  | .fields => fieldOf s
  | .directions => fieldOf s ++ (match s.direction with
    | .asc => " asc"
    | .desc => " desc")

/-- The parameters that are sent for sorters. -/
def parameters (style : SortStyle) (sorters : List Sorter) : Url.Params :=
  if sorters.isEmpty then [] else [(style.parameter, some (join "," (sorters.map style.item)))]

/-- Divides sorters into those that are sent and those that are applied after reading. -/
def split (style : SortStyle) (sorters : List Sorter) : Split (List Sorter) :=
  let marked := sorters.map fun s => { s with applyLocally := true }
  if sorters.all style.isRemote then
    if sorters.any fun s => s.target.options.sortLocally.getD false then ⟨sorters, marked⟩
    else ⟨sorters, []⟩
  else ⟨[], marked⟩

end SortStyle

end EntityQuery
