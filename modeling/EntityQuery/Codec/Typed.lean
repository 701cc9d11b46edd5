import EntityQuery.Calendar.Date
import EntityQuery.Data.Value
import EntityQuery.Number.Decimal

/-!
# Typed values

Values that callers hand over for writing: besides what a body holds these are dates, moments,
times of day, decimals and bytes. Each has a plain text and a form that messages show.
-/

namespace EntityQuery

open Calendar Number Text

/-- A value to be written. -/
inductive Typed where
  | value (v : Value)
  | date (d : Date)
  | moment (t : DateTime)
  | time (t : TimeOfDay)
  | decimal (d : Decimal)
  | bytes (b : List UInt8)

namespace Typed

instance : Inhabited Typed := ⟨.value .null⟩

instance : Coe Value Typed := ⟨.value⟩

/-- Numbers with commas between them. -/
def numberList (ns : List Nat) : String := join ", " (ns.map natText)

/-- A list of parts without the trailing zeros past the first `keep`. -/
def dropZeros (keep : Nat) (parts : List Nat) : List Nat :=
  parts.take keep ++ ((parts.drop keep).reverse.dropWhile (· == 0)).reverse

/-- A distance from universal time as messages show it. -/
def shownOffset (offset : Int) : String :=
  if offset = 0 then "datetime.timezone.utc"
  else
    let seconds := Int.fdiv offset 1000000
    let fields := [("days", Int.fdiv seconds 86400), ("seconds", Int.fmod seconds 86400),
      ("microseconds", Int.fmod offset 1000000)]
    let shown := (fields.filter (·.2 != 0)).map fun f => f.1 ++ "=" ++ integerText f.2
    "datetime.timezone(datetime.timedelta(" ++ join ", " shown ++ "))"

/-- A date as messages show it. -/
def shownDate (d : Date) : String :=
  "datetime.date(" ++ numberList [d.year, d.month, d.day] ++ ")"

/-- A time of day as messages show it. -/
def shownTime (t : TimeOfDay) : String :=
  "datetime.time(" ++ numberList (dropZeros 2 [t.hour, t.minute, t.second, t.microsecond]) ++ ")"

/-- A moment as messages show it. -/
def shownMoment (t : DateTime) : String :=
  let parts := [t.date.year, t.date.month, t.date.day, t.time.hour, t.time.minute, t.time.second,
    t.time.microsecond]
  let offset := (t.offset.map fun o => ", tzinfo=" ++ shownOffset o).getD ""
  "datetime.datetime(" ++ numberList (dropZeros 5 parts) ++ offset ++ ")"

/-- One byte between quotes. -/
def quotedByte (quote : Char) (b : UInt8) : List Char :=
  let c := Char.ofNat b.toNat
  if c = quote ∨ c = '\\' then ['\\', c]
  else if c = '\n' then ['\\', 'n']
  else if c = '\r' then ['\\', 'r']
  else if c = '\t' then ['\\', 't']
  else if 0x20 ≤ b ∧ b < 0x7F then [c]
  else '\\' :: 'x' :: hex 2 b.toNat

/-- Bytes as messages show them. -/
def shownBytes (b : List UInt8) : String :=
  let q := quoteFor (b.map fun x => Char.ofNat x.toNat)
  String.ofList ('b' :: q :: b.flatMap (quotedByte q) ++ [q])

/-- The plain text of a value. -/
def text : Typed → String
  | .value v => v.text
  | .date d => d.text
  | .moment t => t.textWith " "
  | .time t => t.text
  | .decimal d => d.text
  | .bytes b => shownBytes b

/-- The value as messages show it. -/
def shown : Typed → String
  | .value v => v.shown
  | .date d => shownDate d
  | .moment t => shownMoment t
  | .time t => shownTime t
  | .decimal d => "Decimal(" ++ quoted d.text ++ ")"
  | .bytes b => shownBytes b

/-- The value in a body, where all that bodies do not hold is plain text. -/
def toValue : Typed → Value
  | .value v => v
  | t => .str t.text

end Typed

end EntityQuery
