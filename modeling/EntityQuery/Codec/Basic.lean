import EntityQuery.Codec.Moment

/-!
# Codecs

A codec writes values as literals of a URL and as values of a body, and reads both back. The plain
codec writes text as it is. The OData codecs choose the form by the remote type hint: version 2 has
typed literals such as `guid'…'`, `42L` or `datetime'…'`, version 4 leaves most of them bare. Bytes
are written over 64 characters, three bytes to four characters, filled up with `=`.
-/

namespace EntityQuery

namespace Base64

/-- The character of six bits. -/
def digit (n : Nat) : Char :=
  if n < 26 then Char.ofNat (65 + n)
  else if n < 52 then Char.ofNat (71 + n)
  else if n < 62 then Char.ofNat (n - 4)
  else if n = 62 then '+'
  else '/'

/-- The characters that stand for bytes. -/
def encodeChars : List UInt8 → List Char
  | [] => []
  | [a] =>
    let n := a.toNat * 16
    [digit (n / 64), digit (n % 64), '=', '=']
  | [a, b] =>
    let n := (a.toNat * 256 + b.toNat) * 4
    [digit (n / 4096), digit (n / 64 % 64), digit (n % 64), '=']
  | a :: b :: c :: rest =>
    let n := (a.toNat * 256 + b.toNat) * 256 + c.toNat
    digit (n / 262144) :: digit (n / 4096 % 64) :: digit (n / 64 % 64) :: digit (n % 64)
      :: encodeChars rest

/-- The text that stands for bytes. -/
def encode (bytes : List UInt8) : String := String.ofList (encodeChars bytes)

end Base64

open Number Text Typed

/-- How values are written and read. -/
inductive Codec where
  | plain
  | odata2
  | odata4
  deriving DecidableEq, Repr, Inhabited

/-- Every single quote of a text doubled. -/
def escapeLiteral (s : String) : String := Text.replace "'" "''" s

/-- Every doubled single quote of a text as one. -/
def unescapeLiteral (s : String) : String := Text.replace "''" "'" s

/-- A text between single quotes. -/
def quotedLiteral (s : String) : String := "'" ++ escapeLiteral s ++ "'"

/-- The words that may stand before a quoted literal. -/
def literalTags : List String :=
  ["guid", "datetime", "datetimeoffset", "binary", "X", "time", "duration"]

/-- The text between the quotes of a literal with a tag. -/
def taggedText? (cs : List Char) : Option (List Char) :=
  literalTags.findSome? fun tag =>
    match after? (tag ++ "'").toList cs with
    | some r =>
      match r.reverse with
      | '\'' :: r => some r.reverse
      | _ => none
    | none => none

/-- The text between quotes that enclose a literal. -/
def enclosedText? (cs : List Char) : Option (List Char) :=
  match cs with
  | '\'' :: r =>
    match r.reverse with
    | '\'' :: r => some r.reverse
    | _ => none
  | _ => none

/-- A text without one of the given characters at its end. -/
def withoutSuffix (marks : List Char) (s : String) : String :=
  match s.toList.reverse with
  | c :: r => if c ∈ marks then String.ofList r.reverse else s
  | [] => s

/-- The address of a link that stands for a related item. -/
def deferredAddress? (v : Value) : Option Value :=
  match v.get? "__deferred" with
  | some d => d.get? "uri"
  | none => none

namespace Codec

/-- The remote type by which a codec chooses; version 4 knows no moment without an offset. -/
def hint (c : Codec) (type : DataType) (declared : Option String) : Hint :=
  match c, Hint.of type declared with
  | .odata4, .dateTime => .dateTimeOffset
  | _, h => h

/-- The literal of a moment with offset. -/
def offsetText (c : Codec) (v : Typed) : String :=
  match c, v with
  | .odata4, .moment t => if t.offset.isSome then t.textWith "T" else t.shortText "T" ++ "Z"
  | .odata4, v =>
    let s := trim v.text
    if contains " " s && !contains "T" s then Text.replace " " "T" s ++ "Z" else s
  | _, .moment t => t.textWith "T"
  | _, v => v.text

/-- The literal of a number or text whose remote type says nothing. -/
def untypedLiteral (v : Typed) : String :=
  if v.isNumeric then trim v.text else quotedLiteral v.text

/-- The OData literal of a value that is not null. -/
def odataLiteral (c : Codec) (h : Hint) (v : Typed) : Except CodecFault String :=
  let casting {α : Type} (remoteType : String) (r : Except Error α) : Except CodecFault α :=
    cast v.shown remoteType r
  match h with
  | .guid => .ok (if c = .odata4 then v.text else "guid'" ++ v.text ++ "'")
  | .int64 => do
    pure (integerText (← casting h.name v.toInteger) ++ if c = .odata4 then "" else "L")
  | .byte | .sbyte | .int16 | .int32 => do pure (integerText (← casting h.name v.toInteger))
  | .decimal => casting h.name v.numberText
  | .single => do pure ((← casting h.name v.numberText) ++ if c = .odata4 then "" else "f")
  | .double => do pure ((← casting h.name v.numberText) ++ if c = .odata4 then "" else "d")
  | .dateTimeOffset =>
    .ok (if c = .odata4 then c.offsetText v else "datetimeoffset'" ++ c.offsetText v ++ "'")
  | .dateTime => do pure ("datetime'" ++ (← casting h.name v.toMoment).shortText "T" ++ "'")
  | .time =>
    if c = .odata4 then do
      let t ← casting "TimeOfDay" v.toClock
      pure (paddedText 2 t.hour ++ ":" ++ paddedText 2 t.minute ++ ":"
        ++ paddedText 2 (t.second.getD 0))
    else casting h.name (encodeTime v)
  | .binary => .ok ("binary'" ++ v.text ++ "'")
  | .boolean => do pure (if ← casting h.name v.toBool then "true" else "false")
  | .string => .ok (quotedLiteral v.text)
  | .none | .other _ => .ok (untypedLiteral v)

/-- The literal of a value in a URL. -/
def encode (c : Codec) (v : Typed) (type : DataType) (declared : Option String) :
    Except CodecFault String :=
  match c, v with
  | .plain, .value .null => .ok ""
  | .plain, .value (.bool b) => .ok (if b then "true" else "false")
  | .plain, v => .ok v.text
  | _, .value .null => .ok "null"
  | c, v => c.odataLiteral (c.hint type declared) v

/-- The form of a value in a body. -/
def encodeForBody (c : Codec) (v : Typed) (type : DataType) (declared : Option String) :
    Except CodecFault Value :=
  let h := c.hint type declared
  let casting {α : Type} (r : Except Error α) : Except CodecFault α := cast v.shown h.name r
  match c, v with
  | .plain, v => .ok v.toValue
  | _, .value .null => .ok .null
  | c, v =>
    match h with
    | .guid => .ok (.str v.text)
    | .int64 => do
      let n ← casting v.toInteger
      pure (if c = .odata4 then .int n else .str (integerText n))
    | .byte | .sbyte | .int16 | .int32 => do pure (.str (integerText (← casting v.toInteger)))
    | .decimal => do pure (.str (← casting v.numberText))
    | .single | .double =>
      if c = .odata4 then do pure (.float (← casting v.toFloat))
      else do pure (.str (← c.odataLiteral h v))
    | .dateTimeOffset | .time => do pure (.str (← c.odataLiteral h v))
    | .dateTime => do pure (.str (← casting (encodeTicks v)))
    | .binary => do pure (.str (Base64.encode (← casting v.toBytes)))
    | .boolean => do pure (.bool (← casting v.toBool))
    | .string | .none | .other _ => .ok v.toValue

/-- Whether a text is a time of day in two-digit fields. -/
def isClockText (cs : List Char) : Bool :=
  match cs with
  | [a, b, ':', c, d] => [a, b, c, d].all isDecimal
  | [a, b, ':', c, d, ':', e, f] => [a, b, c, d, e, f].all isDecimal
  | _ => false

/-- The integer that a text stands for. -/
def integerLiteral (h : Hint) (s : String) : Except CodecFault Value :=
  match integerOfText? s with
  | some n => .ok (.int n)
  | none => .error (.cast (quoted s) h.name)

/-- The value of a number without remote type: an integer when it is digits after signs only. -/
def numberLiteral (s : String) : Except CodecFault Value :=
  let digits := s.toList.dropWhile fun c => c == '+' || c == '-'
  if digits ≠ [] ∧ digits.all isDigit then
    match integerOfText? s with
    | some n => .ok (.int n)
    | none => .error .number
  else
    match floatOfText? s with
    | some x => .ok (.float x)
    | none => .error .number

/-- The value of an OData literal without its tag. -/
def ofLiteralText (h : Hint) (s : String) : Except CodecFault Value :=
  match h with
  | .int64 => integerLiteral h (withoutSuffix ['L', 'l'] s)
  | .byte | .sbyte | .int16 | .int32 => integerLiteral h s
  | .decimal => .ok (.str (withoutSuffix ['M', 'm'] s))
  | .single | .double =>
    let t := withoutSuffix ['f', 'F', 'd', 'D'] s
    match floatOfText? t with
    | some x => .ok (.float x)
    | none => .error (.cast (quoted t) h.name)
  | .boolean => .ok (.bool (lower s == "true"))
  | .dateTime => do
    let t ← cast (quoted s) h.name (Typed.toMoment (.value (.str s)))
    pure (.str (t.shortText " "))
  | .time => do pure (.str ((← decodeTime? s).getD s))
  | .none => if isNumeral (trimChars s.toList) then numberLiteral s else .ok (.str s)
  | _ => .ok (.str s)

/-- The value of a literal. -/
def decode (c : Codec) (literal : String) (type : DataType) (declared : Option String) :
    Except CodecFault Value :=
  match c with
  | .plain =>
    .ok (if type = .boolean ∧ (literal = "true" ∨ literal = "false") then .bool (literal == "true")
      else .str literal)
  | c =>
    let h := c.hint type declared
    let cs := trimChars literal.toList
    if c = .odata4 ∧ h = .time ∧ isClockText cs then .ok (.str (String.ofList cs))
    else if literal = "null" then .ok .null
    else
      match taggedText? cs, enclosedText? cs with
      | some inner, _ => ofLiteralText h (String.ofList inner)
      | none, some inner => .ok (.str (unescapeLiteral (String.ofList inner)))
      | none, none => ofLiteralText h (String.ofList cs)

/-- The value that a value of a body stands for: ticks and durations become plain times, and a
link its address. -/
def decodeFromBody (c : Codec) (v : Value) : Except CodecFault Value :=
  match c, v with
  | .plain, v => .ok v
  | _, .str s => do
    match ← decodeTicks? s with
    | some t => pure (.str t)
    | none =>
      if startsWith "PT" s then pure (.str ((← decodeTime? s).getD s)) else pure (.str s)
  | _, v =>
    match deferredAddress? v with
    | some .null | none => .ok v
    | some address => .ok address

end Codec

end EntityQuery
