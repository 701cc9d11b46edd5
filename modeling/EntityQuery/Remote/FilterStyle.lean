import EntityQuery.Codec.Basic
import EntityQuery.Filter.Basic

/-!
# Remote or local

A style knows which conditions its dialects can send. `Group.split` divides a group into the part
that is sent and the part that is evaluated after reading: each member of a conjunction is decided
on its own, any other group goes as a whole.
-/

namespace EntityQuery

/-- How a dialect sends conditions: as parameters of the URL, as an OData expression of version 2
or 4, or as arguments of a query document. -/
inductive FilterStyle where
  | urlParameters
  | odata2
  | odata4
  | arguments
  deriving DecidableEq, Repr, Inhabited

namespace FilterStyle

/-- The codec of the literals. -/
def codec : FilterStyle → Codec
  | .odata2 => .odata2
  | .odata4 => .odata4
  | .urlParameters | .arguments => .plain

/-- Whether conditions form an expression, which can hold groups. -/
def supportsGroups : FilterStyle → Bool
  | .odata2 | .odata4 => true
  | .urlParameters | .arguments => false

/-- Whether a condition is to be sent. -/
def isRemote (t : FilterStyle) (c : Condition) : Bool :=
  let o := c.options
  match t with
  | .arguments => o.filterRemote != some false && (nonEmpty? o.filterRemoteArgument).isSome
  | t =>
    match o.filterRemote with
    | some b => b
    | none =>
      (nonEmpty? o.filterRemoteUrl).isSome || (nonEmpty? o.filterRemoteUrlParam).isSome
        || (nonEmpty? o.filterRemotePrefix).isSome || t.supportsGroups

/-- The parameter, field or argument that a condition is sent in. -/
def remoteParameter? (t : FilterStyle) (c : Condition) : Option String :=
  if !t.isRemote c then none
  else
    match t with
    | .arguments =>
      if c.comparator = .equals then nonEmpty? c.options.filterRemoteArgument else none
    | _ =>
      (nonEmpty? c.options.filterRemoteUrlParam).or
        (if c.target.isRemote then some c.target.dataAddress else none)

/-- Whether a condition has its own endpoint. -/
def hasEndpoint (t : FilterStyle) (c : Condition) : Bool :=
  (nonEmpty? c.options.filterRemoteUrl).isSome && t.isRemote c

/-- Whether a condition can be sent. -/
def canSend (t : FilterStyle) (c : Condition) : Bool :=
  t.hasEndpoint c || (t.remoteParameter? c).isSome

/-- Refuses the operators that expressions lack. -/
def checkOperator (t : FilterStyle) (op : LogicalOperator) : Except Unsupported Unit :=
  if t.supportsGroups ∧ op = .xor then .error (.operator op.name) else .ok ()

end FilterStyle

instance : MonadLift (Except Unsupported) (Except Error) := ⟨Except.mapError .unsupported⟩

mutual

/-- Whether a group can be sent as it is. Members are looked at in order, and the first that
cannot be sent ends the search. -/
def Group.sendable (t : FilterStyle) : Group → Except Unsupported Bool
  | .mk _ [] [g] => g.sendable t
  | .mk op fs gs =>
    if !t.supportsGroups && op != .and && 1 < fs.length + gs.length then .ok false
    else do
      t.checkOperator op
      if ← filtersSendable t fs then groupsSendable t gs else pure false

/-- Whether a filter can be sent. -/
def Filter.sendable (t : FilterStyle) : Filter → Except Unsupported Bool
  | .condition c => .ok (t.canSend c)
  | .compound g _ => g.sendable t

/-- Whether all filters can be sent. -/
def filtersSendable (t : FilterStyle) : List Filter → Except Unsupported Bool
  | [] => .ok true
  | f :: fs => do if ← f.sendable t then filtersSendable t fs else pure false

/-- Whether all groups can be sent. -/
def groupsSendable (t : FilterStyle) : List Group → Except Unsupported Bool
  | [] => .ok true
  | g :: gs => do if ← g.sendable t then groupsSendable t gs else pure false

end

/-- What is sent of a group or a list, and what is left for evaluation after reading. -/
structure Split (α : Type) where
  remote : α
  locally : α
  deriving Inhabited

/-- Whether a filter is to be evaluated after reading even though it is sent. -/
def Filter.wantsLocal : Filter → Bool
  | .condition c => c.options.filterLocally.getD false
  | .compound _ _ => false

/-- Divides the filters of a conjunction. -/
def splitFilters (t : FilterStyle) : List Filter → Except Unsupported (Split (List Filter))
  | [] => .ok ⟨[], []⟩
  | f :: fs => do
    if ← f.sendable t then
      let rest ← splitFilters t fs
      pure ⟨f :: rest.remote, if f.wantsLocal then f.markLocal :: rest.locally else rest.locally⟩
    else
      let rest ← splitFilters t fs
      pure ⟨rest.remote, f.markLocal :: rest.locally⟩

/-- Divides the nested groups of a conjunction; empty ones vanish. -/
def splitGroups (t : FilterStyle) : List Group → Except Unsupported (Split (List Group))
  | [] => .ok ⟨[], []⟩
  | g :: gs => do
    if g.isEmpty then splitGroups t gs
    else if ← g.sendable t then
      let rest ← splitGroups t gs
      pure ⟨g :: rest.remote, rest.locally⟩
    else
      let rest ← splitGroups t gs
      pure ⟨rest.remote, g.markLocal :: rest.locally⟩

/-- Divides a group into what is sent and what is evaluated after reading. -/
def Group.split (t : FilterStyle) (g : Group) : Except Unsupported (Split Group) :=
  let g := g.flatten
  if g.isEmpty then .ok ⟨.empty, .empty⟩
  else do
    t.checkOperator g.operator
    match g.operator with
    | .and =>
      let fs ← splitFilters t g.filters
      let gs ← splitGroups t g.groups
      pure ⟨.mk .and fs.remote gs.remote, .mk .and fs.locally gs.locally⟩
    | _ =>
      if ← g.sendable t then pure ⟨g, .empty⟩ else pure ⟨.empty, g.markLocal⟩

end EntityQuery
