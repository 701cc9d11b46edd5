import EntityQuery.Data.Value
import EntityQuery.Error
import EntityQuery.Text.Casing

/-!
# Paths into values

A path is a list of steps between slashes. A step names an entry of a map or, in digits, an item
of a list; `name[key=value]` goes on to the first item whose entry `key` reads `value`. `find`
follows a path, `wrap` builds the value in which a path leads to a given one, and `mergeInto` sets
one entry of a nested map.
-/

namespace EntityQuery.Path

open Text

/-- The steps of a path; empty ones do not count. -/
def steps (path : String) : List String := (split '/' path).filter (!·.isEmpty)

/-- A step: the name to look up, and the entry that picks an item. -/
structure Step where
  name : String
  condition : Option (String × String)
  deriving DecidableEq, Repr

/-- Reads a step. -/
def Step.parse (step : String) : Except PathFault Step :=
  match cut? "[" step with
  | none => .ok ⟨step, none⟩
  | some (name, rest) =>
    match rest.toList.reverse with
    | ']' :: condition =>
      match cut? "=" (String.ofList condition.reverse) with
      | some (key, value) =>
        if key = "" then .error (.malformed step)
        else .ok ⟨name, some (trim key, trim value)⟩
      | none => .error (.malformed step)
    | _ => .error (.unclosed step)

/-- Whether an item has the entry that a condition asks for. Truth values are told by their text
in any case. -/
def hasEntry (key value : String) : Value → Bool
  | .map entries =>
    match entries.lookup key with
    | some (.bool b) => lower (Value.boolText b) == lower value
    | some v => v.text == value
    | none => false
  | _ => false

/-- What a name leads to. Digits index a list. -/
def follow (name : String) (data : Value) : Except PathFault Value :=
  match data with
  | .map entries => .ok ((entries.lookup name).getD .null)
  | .list items =>
    if name.toList.all isDigit then
      match Number.integerOfText? name with
      | some n => .ok ((items[n.toNat]?).getD .null)
      | none => .error (.index name)
    else .ok .null
  | _ => .ok .null

/-- What a step leads to; null when there is nothing. -/
def take (data : Value) (step : String) : Except PathFault Value := do
  let s ← Step.parse step
  let data ← if s.name = "" then pure data else follow s.name data
  match s.condition with
  | none => pure data
  | some (key, value) =>
    let items := match data with
      | .map entries => entries.map Prod.snd
      | .list items => items
      | _ => []
    pure ((items.find? (hasEntry key value)).getD .null)

/-- What a list of steps leads to. -/
def findSteps : List String → Value → Except PathFault Value
  | [], data => .ok data
  | _ :: _, .null => .ok .null
  | step :: rest, data => do findSteps rest (← take data step)

/-- What a path leads to; null when a step is missing. -/
def find (data : Value) (path : String) : Except PathFault Value := findSteps (steps path) data

/-- The map in which one step leads to a value. -/
def wrapStep (step : String) (value : Value) : Except PathFault Value := do
  let s ← Step.parse step
  match s.condition with
  | some _ => .error (.selectorInBody step)
  | none => pure (.map [(s.name, value)])

/-- The value in which a list of steps leads to a given one. The last step is read first. -/
def wrapSteps : List String → Value → Except PathFault Value
  | [], value => .ok value
  | step :: rest, value => do wrapStep step (← wrapSteps rest value)

/-- The value in which a path leads to a given one. -/
def wrap (path : String) (value : Value) : Except PathFault Value := wrapSteps (steps path) value

/-- Sets the value at a list of names, making maps on the way. -/
def putAt : (target : Row) → List String → Value → Row
  | target, [], _ => target
  | target, [name], value => target.put name value
  | target, name :: rest, value =>
    let child := match target.get? name with
      | some (.map entries) => entries
      | _ => []
    target.put name (.map (putAt child rest value))

/-- Sets the value at a path, making maps on the way. -/
def mergeInto (target : Row) (path : String) (value : Value) : Row :=
  putAt target (steps path) value

end EntityQuery.Path
