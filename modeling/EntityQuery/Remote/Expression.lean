import EntityQuery.Remote.FilterStyle

/-!
# Filter expressions

The OData form of a group: comparisons joined by `and` or `or`, with every nested chain in
parentheses. `Group.expression?` builds the chain and `Chain.text` prints it. Conditions that say
nothing, such as membership in an empty list, leave no trace.
-/

namespace EntityQuery

open Text

/-- Comparisons joined by one operator. -/
inductive Chain where
  | predicate (c : Condition) (text : String)
  | joined (operator : LogicalOperator) (members : List Chain)

namespace Chain

/-- The word that joins comparisons. -/
def joiner (op : LogicalOperator) : String := " " ++ lower op.name ++ " "

/-- The members of a chain; nested chains stand in parentheses. -/
def memberTexts : List Chain → List String
  | [] => []
  | .predicate _ s :: ms => s :: memberTexts ms
  | .joined op inner :: ms => ("(" ++ join (joiner op) (memberTexts inner) ++ ")") :: memberTexts ms

/-- The chain as an expression. -/
def text : Chain → String
  | .predicate _ s => s
  | .joined op ms => join (joiner op) (memberTexts ms)

end Chain

namespace Condition

/-- The word of an ordering or equality. -/
def operatorWord? : Comparator → Option String
  | .equals => some "eq"
  | .notEquals => some "ne"
  | .greaterThan => some "gt"
  | .greaterOrEqual => some "ge"
  | .lessThan => some "lt"
  | .lessOrEqual => some "le"
  | _ => none

/-- A value of a condition as literal; a value that cannot be cast is reported with the
condition. -/
def literal (t : FilterStyle) (c : Condition) (v : Value) : Except Error String :=
  match t.codec.encode v c.target.dataType c.options.odataType with
  | .ok s => .ok s
  | .error e => .error (.codec e c.shown)

/-- The value of a condition as literal, behind the text that its attribute asks for. -/
def operand (t : FilterStyle) (c : Condition) : Except Error String := do
  pure ((c.options.filterRemotePrefix.getD "") ++ (← c.literal t c.value))

/-- The field of a condition. -/
def field (t : FilterStyle) (c : Condition) : Except Error String :=
  match t.remoteParameter? c with
  | some field => .ok field
  | none => .error (.query (.unsendable c.shown))

/-- Whether the field holds text. -/
def isText (t : FilterStyle) (c : Condition) : Bool :=
  t.codec.hint c.target.dataType c.options.odataType = .string

/-- The test whether a field contains a text. -/
def containment (t : FilterStyle) (c : Condition) (field operand : String) : String :=
  match t with
  | .odata4 =>
    (if c.comparator = .is then "" else "not ") ++ "contains(" ++ field ++ "," ++ operand ++ ")"
  | _ =>
    "substringof(" ++ operand ++ ", " ++ field ++ ") "
      ++ (if c.comparator = .is then "eq" else "ne") ++ " true"

/-- The test whether a field is one of several values. -/
def membership (t : FilterStyle) (c : Condition) (field : String) (literals : List String) :
    String :=
  match t, c.comparator with
  | .odata4, .isIn => field ++ " in (" ++ join "," literals ++ ")"
  | .odata4, _ => "not (" ++ field ++ " in (" ++ join "," literals ++ "))"
  | _, .isIn => "(" ++ join " or " (literals.map fun v => field ++ " eq " ++ v) ++ ")"
  | _, _ => "(" ++ join " and " (literals.map fun v => field ++ " ne " ++ v) ++ ")"

/-- The comparison of a condition that is no membership test; nothing when it asks for likeness
with nothing. -/
def comparison? (t : FilterStyle) (c : Condition) : Except Error (Option String) := do
  let field ← c.field t
  match operatorWord? c.comparator with
  | some word => pure (some (field ++ " " ++ word ++ " " ++ (← c.operand t)))
  | none =>
    if c.value.isMissing then pure none
    else if c.isText t then pure (some (c.containment t field (← c.operand t)))
    else
      let word := if c.comparator = .is then "eq" else "ne"
      pure (some (field ++ " " ++ word ++ " " ++ (← c.operand t)))

/-- The comparison that a condition stands for; nothing when it has no effect. -/
def predicate? (t : FilterStyle) (c : Condition) : Except Error (Option String) := do
  if c.comparator.isMembership then
    match ← c.values with
    | [] => pure none
    | [_] => c.simplify.comparison? t
    | values =>
      let field ← c.field t
      pure (some (c.membership t field (← values.mapM (c.literal t))))
  else c.comparison? t

end Condition

mutual

/-- The chain that a group stands for; nothing when it has no effect. -/
def Group.expression? (t : FilterStyle) : Group → Except Error (Option Chain)
  | .mk _ [] [g] => g.expression? t
  | .mk op fs gs =>
    if fs.isEmpty && Group.allEmpty gs then .ok none
    else do
      t.checkOperator op
      match (← filterExpressions t fs) ++ (← groupExpressions t gs) with
      | [] => pure none
      | members => pure (some (.joined op members))

/-- The chain that a filter stands for. -/
def Filter.expression? (t : FilterStyle) : Filter → Except Error (Option Chain)
  | .condition c => do pure ((← c.predicate? t).map (.predicate c))
  | .compound g _ => g.expression? t

/-- The chains of filters. -/
def filterExpressions (t : FilterStyle) : List Filter → Except Error (List Chain)
  | [] => .ok []
  | f :: fs => do pure ((← f.expression? t).toList ++ (← filterExpressions t fs))

/-- The chains of nested groups. -/
def groupExpressions (t : FilterStyle) : List Group → Except Error (List Chain)
  | [] => .ok []
  | g :: gs => do pure ((← g.expression? t).toList ++ (← groupExpressions t gs))

end

end EntityQuery
