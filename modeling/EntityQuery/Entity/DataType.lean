import EntityQuery.Error
import EntityQuery.Data.Value
import EntityQuery.Text.Casing

/-!
# Data types

The semantic types of attributes.
-/

namespace EntityQuery

open Text

/-- What an attribute holds. -/
inductive DataType where
  | string
  | text
  | number
  | integer
  | boolean
  | date
  | timestamp
  | time
  | binary
  | html
  deriving DecidableEq, Repr, Inhabited

namespace DataType

/-- All types with their names. -/
def named : List (String × DataType) :=
  [("STRING", .string), ("TEXT", .text), ("NUMBER", .number), ("INTEGER", .integer),
   ("BOOLEAN", .boolean), ("DATE", .date), ("TIMESTAMP", .timestamp), ("TIME", .time),
   ("BINARY", .binary), ("HTML", .html)]

/-- The name of a type. -/
def name : DataType → String
  | .string => "STRING"
  | .text => "TEXT"
  | .number => "NUMBER"
  | .integer => "INTEGER"
  | .boolean => "BOOLEAN"
  | .date => "DATE"
  | .timestamp => "TIMESTAMP"
  | .time => "TIME"
  | .binary => "BINARY"
  | .html => "HTML"

/-- Whether values are numbers. -/
def isNumeric : DataType → Bool
  | .number | .integer => true
  | _ => false

/-- Whether values are text. -/
def isTextual : DataType → Bool
  | .string | .text | .html => true
  | _ => false

/-- The type that a value names, in any case and with blanks around it. Without a name it is
text. -/
def parse (v : Value) : Except EntityFault DataType :=
  if !v.isTrue then .ok .string
  else
    match named.lookup (upper (trim v.text)) with
    | some t => .ok t
    | none => .error (.unknownDataType v.text)

end DataType

end EntityQuery
