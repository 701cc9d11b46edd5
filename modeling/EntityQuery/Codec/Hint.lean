import EntityQuery.Entity.DataType

/-!
# Remote type hints

The type that a service declares for a field, such as `Edm.Int64`. Where none is declared the type
of the attribute stands in, and numbers have no hint at all.
-/

namespace EntityQuery

open Text

/-- A declared remote type. -/
inductive Hint where
  | none
  | guid
  | int64
  | int32
  | int16
  | byte
  | sbyte
  | decimal
  | single
  | double
  | boolean
  | dateTime
  | dateTimeOffset
  | time
  | binary
  | string
  | other (name : String)
  deriving DecidableEq, Repr, Inhabited

namespace Hint

/-- The types that have literals of their own, by name. -/
def named : List (String × Hint) :=
  [("", .none), ("Guid", .guid), ("Int64", .int64), ("Int32", .int32), ("Int16", .int16),
   ("Byte", .byte), ("SByte", .sbyte), ("Decimal", .decimal), ("Single", .single),
   ("Double", .double), ("Boolean", .boolean), ("DateTime", .dateTime),
   ("DateTimeOffset", .dateTimeOffset), ("Time", .time), ("Binary", .binary), ("String", .string)]

/-- The type with a name. -/
def ofName (name : String) : Hint := (named.lookup name).getD (.other name)

/-- The name of a type. -/
def name : Hint → String
  | .none => ""
  | .guid => "Guid"
  | .int64 => "Int64"
  | .int32 => "Int32"
  | .int16 => "Int16"
  | .byte => "Byte"
  | .sbyte => "SByte"
  | .decimal => "Decimal"
  | .single => "Single"
  | .double => "Double"
  | .boolean => "Boolean"
  | .dateTime => "DateTime"
  | .dateTimeOffset => "DateTimeOffset"
  | .time => "Time"
  | .binary => "Binary"
  | .string => "String"
  | .other name => name

/-- A declared type without blanks around it and without the lead `Edm.`, in any case. -/
def normalize (declared : String) : String :=
  let t := trim declared
  if startsWith "edm." (lower t) then String.ofList (t.toList.drop 4) else t

/-- The hint for an attribute: what is declared for it, else what its type suggests. -/
def of (type : DataType) (declared : Option String) : Hint :=
  match ofName (normalize (declared.getD "")) with
  | .none =>
    match type with
    | .date | .timestamp => .dateTime
    | .time => .time
    | .boolean => .boolean
    | .binary => .binary
    | .string | .text | .html => .string
    | .number | .integer => .none
  | hint => hint

end Hint

end EntityQuery
