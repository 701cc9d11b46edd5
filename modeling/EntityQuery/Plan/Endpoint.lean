import EntityQuery.Pattern.Replace
import EntityQuery.Plan.Basic
import EntityQuery.Text.Placeholder

/-!
# Endpoints

The address that a plan is read from: that of the entity, that of single items, or one that a
condition brings along, with placeholders filled in and adapted as the entity asks for.
Conditions that went into the address are consumed and not sent again.
-/

namespace EntityQuery

open Text

/-- An address and the conditions that went into it; there is no address when a placeholder has
no value. -/
structure Endpoint where
  address : Option String
  consumed : List Located := []
  deriving Inhabited

/-- The text of a value in an address. -/
def Value.addressText? (v : Value) : Option String :=
  if v.isMissing then none
  else
    match v with
    | .bool b => some (if b then "true" else "false")
    | v => some v.text

/-- The text of a condition in an address: that of its value, or of the first of several. -/
def Condition.addressText? (c : Condition) : Except Error (Option String) := do
  if c.comparator.isMembership then
    match ← c.values with
    | v :: _ => pure v.addressText?
    | [] => pure none
  else pure c.value.addressText?

/-- What stands for the value of the condition in an address of its own. -/
def valueMark : String := "[#value#]"

/-- Goes through the conditions in order. Each that is sent to an address of its own replaces the
address, filled with its value. The flag tells whether all values were there. -/
def ownAddresses (t : FilterStyle) (url : Option String) (e : String × List Located) :
    List Located → Except Error (Bool × String × List Located)
  | [] => .ok (true, e)
  | l :: rest =>
    match nonEmpty? l.2.options.filterRemoteUrl, t.isRemote l.2 with
    | some own, true =>
      if url.isSome ∧ url ≠ some own then .error (.query .conflictingUrls)
      else do
        match ← l.2.addressText? with
        | none =>
          if contains valueMark own then pure (false, e)
          else ownAddresses t (some own) (Text.replace valueMark "" own, e.2 ++ [l]) rest
        | some v => ownAddresses t (some own) (Text.replace valueMark v own, e.2 ++ [l]) rest
    | _, _ => ownAddresses t url e rest

namespace Plan

/-- The value of a placeholder. -/
def placeholderValue? (p : Plan) (name : String) : Except Error (Option String) :=
  match p.find? name with
  | some c => c.addressText?
  | none => .ok none

/-- An address with its placeholders filled in. -/
def fillAddress? (p : Plan) (address : String) : Except Error (Option String) := do
  let values ← (placeholders address).mapM fun name => do
    pure (name, ← p.placeholderValue? name)
  pure (fillPlaceholders? (fun name => (values.lookup name).join) address)

/-- An address adapted by the pattern of the entity. -/
def adaptAddress (o : EntityOptions) (address : String) : Except Error String :=
  match nonEmpty? o.requestUrlReplacePattern with
  | none => .ok address
  | some pattern =>
    match Pattern.read? pattern with
    | none => .error (.malformed .pattern)
    | some compiled =>
      match compiled.replace o.requestUrlReplaceWith address with
      | .ok s => .ok s
      | .error .malformed => .error (.malformed .pattern)
      | .error .unknownName => .error (.malformed .groupName)

/-- The address to read from. -/
def endpoint (p : Plan) (d : Dialect) : Except Error Endpoint := do
  let start ← match ← p.itemCondition? with
    | some l => pure (p.options.uidRequestDataAddress.getD "", [l])
    | none => pure (p.entity.dataAddress, [])
  let (complete, address, consumed) ← ownAddresses d.filterStyle none start p.topLevel
  if !complete then pure ⟨none, consumed⟩
  else
    match ← p.fillAddress? address with
    | none => pure ⟨none, consumed⟩
    | some address => pure ⟨some (← adaptAddress p.options address), consumed⟩

end Plan

end EntityQuery
