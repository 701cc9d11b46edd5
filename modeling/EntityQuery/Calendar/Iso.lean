import EntityQuery.Calendar.Date

/-!
# Reading ISO 8601 dates and times

A date is `YYYY-MM-DD`, `YYYYMMDD`, `YYYY-Www[-D]` or `YYYYWww[D]`. One character of any kind
separates it from the time `HH[:MM[:SS]]` or `HH[MM[SS]]`, which may carry a fraction of a second
after a point or comma, and an offset `Z` or `±HH[:MM[:SS]]`. A time is read leniently in some
places: a colon may stand before the fraction, and the separator before an offset may be doubled.
-/

namespace EntityQuery.Calendar

/-- The value of a digit of ASCII. -/
def asciiDigit? (c : Char) : Option Nat := if c.isDigit then some (c.toNat - 48) else none

/-- A numeral of exactly `n` digits and what follows it. -/
def numeral? : (n : Nat) → List Char → Option (Nat × List Char)
  | 0, cs => some (0, cs)
  | _ + 1, [] => none
  | n + 1, c :: cs => do
    let d ← asciiDigit? c
    let (rest, cs) ← numeral? n cs
    pure (d * Nat.pow 10 n + rest, cs)

/-- The day of the week of a number of a day, Monday being 0. -/
def weekday (ordinal : Nat) : Nat := (ordinal + 6) % 7

/-- The number of the Monday of the first week of a year: the week that holds its first
Thursday. -/
def firstMonday (year : Nat) : Int :=
  let first := daysBeforeYear year + 1
  let w := weekday first
  if 3 < w then (first : Int) - w + 7 else (first : Int) - w

/-- The weeks of a year: 53 when it starts on a Thursday, or on a Wednesday and is a leap year. -/
def weeksOf (year : Nat) : Nat :=
  let w := weekday (daysBeforeYear year + 1)
  if w = 3 ∨ (w = 2 ∧ isLeap year) then 53 else 52

/-- The date of a day of a week. -/
def Date.ofWeek? (year week day : Nat) : Option Date :=
  if 1 ≤ year ∧ 1 ≤ week ∧ week ≤ weeksOf year ∧ 1 ≤ day ∧ day ≤ 7 then
    let n := firstMonday year + (week - 1) * 7 + day - 1
    if n < 1 then none else Date.ofOrdinal? n.toNat
  else none

/-- Where the date ends in a text of at least seven characters. -/
def dateLength? (cs : List Char) : Option Nat :=
  let digitAt (i : Nat) : Bool := (cs[i]?.map Char.isDigit).getD false
  if cs.length = 7 then some 7
  else if cs[4]? = some '-' then
    if cs[5]? = some 'W' then
      if cs.length > 8 ∧ cs[8]? = some '-' then
        if cs.length = 9 then none else if digitAt 10 then some 8 else some 10
      else some 8
    else some 10
  else if cs[4]? = some 'W' then
    let digits := 7 + ((cs.drop 7).takeWhile Char.isDigit).length
    if digits < 9 then some digits else if digits % 2 = 0 then some 7 else some 8
  else some 8

/-- The date that a whole text stands for. -/
def Date.ofChars? (cs : List Char) : Option Date := do
  let (year, cs) ← numeral? 4 cs
  let (dashed, cs) := match cs with
    | '-' :: r => (true, r)
    | r => (false, r)
  let dash? (cs : List Char) : Option (List Char) :=
    if dashed then Text.after? ['-'] cs else some cs
  match cs with
  | 'W' :: cs =>
    let (week, cs) ← numeral? 2 cs
    if cs = [] then Date.ofWeek? year week 1
    else
      let (day, rest) ← numeral? 1 (← dash? cs)
      if rest = [] then Date.ofWeek? year week day else none
  | cs =>
    let (month, cs) ← numeral? 2 cs
    let (day, rest) ← numeral? 2 (← dash? cs)
    if rest = [] then Date.of? year month day else none

/-- Hours, minutes, seconds and microseconds as written. -/
structure ClockParts where
  hour : Nat := 0
  minute : Nat := 0
  second : Nat := 0
  microsecond : Nat := 0

/-- Microseconds from the first six digits of a fraction; more digits are dropped. The flag tells
whether text is left. -/
def fraction? (cs : List Char) : Option (Nat × Bool) := do
  let n := min cs.length 6
  let (f, rest) ← numeral? n cs
  pure (f * Nat.pow 10 (6 - n), rest.dropWhile Char.isDigit ≠ [])

/-- Reads `HH[:MM[:SS]]` with a fraction. The flag tells whether text is left that only an offset
after it excuses. `place` counts the numerals read, `colons` whether colons separate them. -/
def clock? (place : Nat) (colons : Bool) (parts : ClockParts) (cs : List Char) :
    Nat → Option (ClockParts × Bool)
  | 0 => (fraction? cs).map fun (f, left) => ({ parts with microsecond := f }, left)
  | fuel + 1 => do
    let (n, cs) ← numeral? 2 cs
    let parts := match place with
      | 0 => { parts with hour := n }
      | 1 => { parts with minute := n }
      | _ => { parts with second := n }
    match cs with
    | [] => some (parts, false)
    | c :: r =>
      let colons := if place = 0 then c == ':' else colons
      if r = [] ∧ c.toNat < 0x80 then some (parts, true)
      else if colons && c == ':' then clock? (place + 1) colons parts r fuel
      else if c == '.' || c == ',' then
        (fraction? r).map fun (f, left) => ({ parts with microsecond := f }, left)
      else if colons then none
      else clock? (place + 1) colons parts cs fuel

/-- The greatest offset, exclusive: a day, in microseconds. -/
def dayMicroseconds : Int := 86400000000

/-- The offset that a text stands for, in microseconds; a fraction of a second alone is none. -/
def offset? (cs : List Char) : Option Int := do
  match cs with
  | 'Z' :: r => if r = [] then some 0 else none
  | sign :: r =>
    let (p, left) ← clock? 0 true {} r 3
    let seconds := p.hour * 3600 + p.minute * 60 + p.second
    let n : Int := if seconds = 0 then 0 else seconds * 1000000 + p.microsecond
    if left || dayMicroseconds ≤ n then none else some (if sign = '-' then -n else n)
  | [] => none

/-- The time and offset that a whole text stands for. -/
def timeOffset? (cs : List Char) : Option (TimeOfDay × Option Int) := do
  let clock := cs.takeWhile fun c => !(c == '+' || c == '-' || c == 'Z')
  let zone := cs.drop clock.length
  let (p, left) ← clock? 0 true {} clock 3
  let time ← TimeOfDay.of? p.hour p.minute p.second p.microsecond
  if zone = [] then if left then none else some (time, none)
  else (offset? zone).map fun o => (time, some o)

/-- The moment that a text stands for. -/
def DateTime.ofChars? (cs : List Char) : Option DateTime := do
  if cs.length < 7 then none
  else
    let n ← dateLength? cs
    let date ← Date.ofChars? (cs.take n)
    match cs.drop n with
    | [] => some ⟨date, .midnight, none⟩
    | _ :: rest =>
      let (time, offset) ← timeOffset? rest
      some ⟨date, time, offset⟩

/-- The moment that a text stands for. -/
def DateTime.ofText? (s : String) : Option DateTime := DateTime.ofChars? s.toList

/-- The date that a text stands for. -/
def Date.ofText? (s : String) : Option Date :=
  if s.toList.length < 7 then none else Date.ofChars? s.toList

/-- The time of day that a text stands for, behind a `T` or not; an offset is read and dropped. -/
def TimeOfDay.ofText? (s : String) : Option TimeOfDay :=
  let cs := match s.toList with
    | 'T' :: r => r
    | cs => cs
  (timeOffset? cs).map Prod.fst

end EntityQuery.Calendar
