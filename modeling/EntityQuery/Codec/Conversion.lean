import EntityQuery.Calendar.Iso
import EntityQuery.Codec.Typed
import EntityQuery.Codec.Hint
import EntityQuery.Number.FloatText
import EntityQuery.Text.Casing

/-!
# Conversions

What a value is as a truth value, an integer, a number, a moment or a time of day, and when it is
none. `cast` turns a failed conversion into the fault that names the remote type.
-/

namespace EntityQuery

open Calendar Number Text

/-- The digits at the start of a text and the rest. -/
def spanDecimals (cs : List Char) : List Char × List Char := cs.span isDecimal

/-- Whether a text is an exponent or empty. -/
def isExponent : List Char → Bool
  | [] => true
  | c :: r =>
    let (ds, rest) := spanDecimals (takeSign r).2
    (c == 'e' || c == 'E') && ds != [] && rest == []

/-- Whether a text is a decimal numeral, with or without point and exponent. -/
def isNumeral (cs : List Char) : Bool :=
  let (whole, rest) := spanDecimals (takeSign cs).2
  match rest with
  | '.' :: r =>
    let (fraction, rest) := spanDecimals r
    (whole != [] || fraction != []) && isExponent rest
  | rest => whole != [] && isExponent rest

namespace Typed

/-- Whether the value is a number or a text that reads as one. Truth values are no numbers. -/
def isNumeric : Typed → Bool
  | .value (.int _) | .value (.float _) | .decimal _ => true
  | .value (.str s) => isNumeral (trimChars s.toList)
  | _ => false

/-- The texts that stand for true. -/
def trueTexts : List String := ["1", "true", "yes", "y", "x"]

/-- The texts that stand for false. -/
def falseTexts : List String := ["0", "false", "no", "n", ""]

/-- The truth value that a value stands for. -/
def toBool (v : Typed) : Except Error Bool :=
  match v with
  | .value (.bool b) => .ok b
  | .value (.int n) => .ok (n != 0)
  | .value (.float x) => .ok !x.isZero
  | v =>
    let t := lower (trim v.text)
    if t ∈ trueTexts then .ok true
    else if t ∈ falseTexts then .ok false
    else .error (.name (.boolean v.shown))

/-- The integer that a value stands for. -/
def toInteger (v : Typed) : Except Error Int :=
  match v with
  | .value (.bool _) => .error (.name (.integer v.shown))
  | .value (.int n) => .ok n
  | .value (.float x) =>
    match x.isInteger, x.truncate? with
    | true, some n => .ok n
    | _, _ => .error (.name (.integer v.shown))
  | v =>
    match integerOfText? (trim v.text) with
    | some n => .ok n
    | none => .error (.malformed .number)

/-- The moment that a value stands for; a `Z` at the end of a text is dropped. -/
def toMoment (v : Typed) : Except Error DateTime :=
  match v with
  | .moment t => .ok t
  | .date d => .ok ⟨d, .midnight, none⟩
  | v =>
    let cs := trimChars v.text.toList
    let cs := match cs.reverse with
      | 'Z' :: r => r.reverse
      | _ => cs
    match DateTime.ofChars? cs with
    | some t => .ok t
    | none => .error (.malformed .moment)

/-- The numeral of a value. -/
def numberText (v : Typed) : Except Error String :=
  match v with
  | .value (.float x) => .ok x.text
  | .decimal d => .ok d.text
  | v =>
    match Decimal.ofText? v.text with
    | some d => .ok d.text
    | none => .error (.malformed .number)

/-- The 64-bit number that a value stands for. -/
def toFloat (v : Typed) : Except Error Binary64 :=
  let ofText (s : String) : Except Error Binary64 :=
    match floatOfText? s with
    | some x => .ok x
    | none => .error (.malformed .number)
  match v with
  | .value (.bool b) => .ok (.ofInt (if b then 1 else 0))
  | .value (.int n) =>
    match Binary64.ofInt n with
    | .infinite _ => .error (.codec .infinite "")
    | x => .ok x
  | .value (.float x) => .ok x
  | .value (.str s) => ofText s
  | .bytes b => ofText (String.ofList (b.map fun x => Char.ofNat x.toNat))
  | .decimal (.nan _ true _) => .error (.malformed .number)
  | .decimal d => .ok d.toBinary64
  | _ => .error (.malformed .number)

/-- Hours, minutes and seconds as written. -/
structure Clock where
  hour : Int
  minute : Int
  second : Option Int
  deriving DecidableEq, Repr

/-- A part of a time of day. -/
def clockPart (s : String) : Except Error Int :=
  match integerOfText? s with
  | some n => .ok n
  | none => .error (.malformed .number)

/-- The seconds of a time of day; a fraction is dropped. -/
def clockSeconds (s : String) : Except Error Int :=
  match floatOfText? s with
  | some (.infinite _) => .error (.codec .infinite "")
  | some x =>
    match x.truncate? with
    | some n => .ok n
    | none => .error (.malformed .number)
  | none => .error (.malformed .number)

/-- The time of day that a value stands for: two or three numbers between colons. -/
def toClock (v : Typed) : Except Error Clock :=
  match v with
  | .time t => .ok ⟨t.hour, t.minute, some t.second⟩
  | v =>
    match split ':' (trim v.text) with
    | [h, m] => do pure ⟨← clockPart h, ← clockPart m, none⟩
    | [h, m, s] => do pure ⟨← clockPart h, ← clockPart m, some (← clockSeconds s)⟩
    | _ => .error (.name (.timeOfDay v.shown))

/-- The blanks between pairs of hexadecimal digits. -/
def isPairBlank (c : Char) : Bool := c == ' ' || (9 ≤ c.toNat && c.toNat ≤ 13)

/-- The bytes that pairs of hexadecimal digits stand for; blanks may stand between pairs. -/
def hexBytes? : List Char → Option (List UInt8)
  | [] => some []
  | [c] => if isPairBlank c then some [] else none
  | c :: d :: r =>
    if isPairBlank c then hexBytes? (d :: r)
    else do
      let a ← hexDigit? c
      let b ← hexDigit? d
      pure (UInt8.ofNat (16 * a + b) :: (← hexBytes? r))

/-- The bytes that a value stands for; a text holds hexadecimal digits, with or without `0x`. -/
def toBytes (v : Typed) : Except Error (List UInt8) :=
  match v with
  | .bytes b => .ok b
  | v =>
    let cs := match trimChars v.text.toList with
      | '0' :: 'x' :: r | '0' :: 'X' :: r => r
      | cs => cs
    match hexBytes? cs with
    | some b => .ok b
    | none => .error (.malformed .number)

end Typed

/-- The result of a conversion to a named type. Only an infinite number keeps its own fault. -/
def cast (shown remoteType : String) : Except Error α → Except CodecFault α
  | .ok a => .ok a
  | .error (.codec .infinite _) => .error .infinite
  | .error _ => .error (.cast shown remoteType)

end EntityQuery
