import EntityQuery.Codec.Conversion

/-!
# Durations and ticks

Two forms that services give to times: a duration `PT10H30M15S` for a time of day, and
`/Date(ticks)/` for a moment, in milliseconds since the start of 1970 in universal time.
-/

namespace EntityQuery

open Calendar Number Text

/-- The duration of a time of day. -/
def Typed.Clock.duration (c : Typed.Clock) : String :=
  "PT" ++ paddedText 2 c.hour ++ "H" ++ paddedText 2 c.minute ++ "M"
    ++ (c.second.map fun s => paddedText 2 s ++ "S").getD ""

/-- The duration that a value stands for; a text that begins like one is left as it is. -/
def encodeTime (v : Typed) : Except Error String :=
  match v with
  | .value (.str s) => if startsWith "PT" s then .ok s else do pure (← v.toClock).duration
  | v => do pure (← v.toClock).duration

/-- A number followed by a unit, if the text begins so. -/
def quantity? (unit : Char) (cs : List Char) : Option (List Char) × List Char :=
  let (ds, rest) := spanDecimals cs
  match ds, rest with
  | _ :: _, c :: r => if c = unit then (some ds, r) else (none, cs)
  | _, _ => (none, cs)

/-- A number of seconds with or without a fraction, which is dropped. -/
def seconds? (cs : List Char) : Option (List Char) × List Char :=
  match quantity? 'S' cs with
  | (some ds, r) => (some ds, r)
  | (none, _) =>
    let (ds, rest) := spanDecimals cs
    match ds, rest with
    | _ :: _, '.' :: r =>
      match quantity? 'S' r with
      | (some _, r) => (some ds, r)
      | (none, _) => (none, cs)
    | _, _ => (none, cs)

/-- The numerals of hours, minutes and seconds in a duration. -/
def durationParts? (cs : List Char) :
    Option (Option (List Char) × Option (List Char) × Option (List Char)) :=
  match cs with
  | 'P' :: 'T' :: r =>
    let (h, r) := quantity? 'H' r
    let (m, r) := quantity? 'M' r
    let (s, r) := seconds? r
    if r = [] ∧ cs ≠ ['P', 'T'] then some (h, m, s) else none
  | _ => none

/-- A numeral in at least two digits. -/
def twoDigits (ds : List Char) : Except CodecFault String :=
  match integerOfChars? ds with
  | some n => .ok (paddedText 2 n)
  | none => .error .number

/-- The time of day of a duration; nothing when the text is none. Seconds show only when the
duration has them. -/
def decodeTime? (s : String) : Except CodecFault (Option String) :=
  match durationParts? (trimChars s.toList) with
  | none => .ok none
  | some (h, m, s) => do
    let hour ← twoDigits (h.getD ['0'])
    let minute ← twoDigits (m.getD ['0'])
    let second ← match s with
      | some s => do pure (":" ++ (← twoDigits s))
      | none => pure ""
    pure (some (hour ++ ":" ++ minute ++ second))

/-! ## Ticks -/

/-- The seconds since 1970 that the years of a calendar with 32-bit year numbers span. -/
def clockRange : Int × Int := (-67768040609740800, 67768036191676799)

/-- Seconds that 64 bits hold are less than this, and at least as great as its opposite. -/
def secondLimit : Int := 9223372036854775808

/-- The moment at a number of seconds since 1970. -/
def momentAt (seconds : Int) : Except CodecFault DateTime :=
  match DateTime.ofClockSeconds? seconds with
  | some t => .ok t
  | none =>
    if seconds < -secondLimit ∨ secondLimit ≤ seconds then .error .timestamp
    else if clockRange.1 ≤ seconds ∧ seconds ≤ clockRange.2 then .error .year
    else .error .clock

/-- The numeral between the brackets of `/Date(…)/`; an offset of four digits may follow it. -/
def ticksNumeral? (cs : List Char) : Option (List Char) := do
  let r ← after? "/Date(".toList cs
  let (minus, r) := match r with
    | '-' :: r => (['-'], r)
    | r => ([], r)
  let (ds, rest) := spanDecimals r
  let rest := match rest with
    | '+' :: a :: b :: c :: d :: r | '-' :: a :: b :: c :: d :: r =>
      if [a, b, c, d].all isDecimal then r else rest
    | rest => rest
  if ds ≠ [] ∧ rest = ")/".toList then some (minus ++ ds) else none

/-- The moment that ticks stand for, in universal time without an offset; nothing when the text
holds no ticks. -/
def decodeTicks? (s : String) : Except CodecFault (Option String) :=
  match ticksNumeral? (trimChars s.toList) with
  | none => .ok none
  | some ds =>
    match integerOfChars? ds with
    | none => .error .number
    | some ms => do pure (some ((← momentAt (Int.fdiv ms 1000)).shortText " "))

/-- The microseconds between the start of 1970 and a moment. -/
def DateTime.microseconds (t : DateTime) : Int :=
  t.clockSeconds * 1000000 + t.time.microsecond - t.offset.getD 0

/-- The whole seconds between the start of 1970 and a moment. A moment without offset is read in
universal time and its fraction dropped; otherwise the distance is taken as a 64-bit number and
cut toward zero. -/
def DateTime.epochSeconds (t : DateTime) : Int :=
  match t.offset with
  | none => t.clockSeconds
  | some _ =>
    let n := DateTime.microseconds t
    (Binary64.ofRatio (n < 0) n.natAbs 1000000).truncate?.getD 0

/-- The ticks of a value. -/
def encodeTicks (v : Typed) : Except Error String := do
  pure ("/Date(" ++ integerText (DateTime.epochSeconds (← v.toMoment)) ++ "000)/")

end EntityQuery
