import EntityQuery.Data.Value
import EntityQuery.Number.FloatText

/-!
# JSON text

`Json.read?` reads one JSON text into a value; besides the standard it knows the numbers `NaN`,
`Infinity` and `-Infinity`. `Json.write` prints a value in ASCII, with everything else escaped,
and `JsonStyle` says which separators stand between items and after names.
-/

namespace EntityQuery.Json

open Number Text

/-! ## Writing -/

/-- The separators of a JSON text. -/
structure Style where
  item : String
  name : String

/-- No blanks. -/
def compact : Style := ⟨",", ":"⟩

/-- One blank after each separator. -/
def spaced : Style := ⟨", ", ": "⟩

/-- The escape of one unit of 16 bits. -/
def unitEscape (n : Nat) : List Char := '\\' :: 'u' :: hex 4 n

/-- One character of a JSON string. -/
def writeChar (c : Char) : List Char :=
  if c = '"' then ['\\', '"']
  else if c = '\\' then ['\\', '\\']
  else if c = '\n' then ['\\', 'n']
  else if c = '\r' then ['\\', 'r']
  else if c = '\t' then ['\\', 't']
  else if c.toNat = 0x0C then ['\\', 'f']
  else if c.toNat = 0x08 then ['\\', 'b']
  else if 0x20 ≤ c.toNat ∧ c.toNat ≤ 0x7E then [c]
  else if c.toNat < 0x10000 then unitEscape c.toNat
  else
    let n := c.toNat - 0x10000
    unitEscape (0xD800 + n / 0x400) ++ unitEscape (0xDC00 + n % 0x400)

/-- A JSON string. -/
def writeString (s : String) : String :=
  String.ofList ('"' :: s.toList.flatMap writeChar ++ ['"'])

/-- A number, with the words for what is none. -/
def writeFloat : Binary64 → String
  | .nan => "NaN"
  | .infinite negative => if negative then "-Infinity" else "Infinity"
  | x => x.text

mutual

/-- The JSON text of a value. -/
def write (style : Style) : Value → String
  | .null => "null"
  | .bool b => if b then "true" else "false"
  | .int n => integerText n
  | .float x => writeFloat x
  | .str s => writeString s
  | .list items => "[" ++ join style.item (writeItems style items) ++ "]"
  | .map entries => "\x7b" ++ join style.item (writeEntries style entries) ++ "\x7d"

/-- The JSON texts of items. -/
def writeItems (style : Style) : List Value → List String
  | [] => []
  | v :: r => write style v :: writeItems style r

/-- The JSON texts of entries. -/
def writeEntries (style : Style) : List (String × Value) → List String
  | [] => []
  | (k, v) :: r => (writeString k ++ style.name ++ write style v) :: writeEntries style r

end

/-! ## Reading -/

/-- The blanks of JSON. -/
def isJsonBlank (c : Char) : Bool := c == ' ' || c == '\t' || c == '\n' || c == '\r'

/-- The text without blanks at its start. -/
def skip (cs : List Char) : List Char := cs.dropWhile isJsonBlank

/-- Four hexadecimal digits. -/
def unit? : List Char → Option (Nat × List Char)
  | a :: b :: c :: d :: r => do
    let a ← hexDigit? a
    let b ← hexDigit? b
    let c ← hexDigit? c
    let d ← hexDigit? d
    pure (((a * 16 + b) * 16 + c) * 16 + d, r)
  | _ => none

/-- The character of a unit, joined with a second one when the two are a surrogate pair. A lone
surrogate is replaced. -/
def unitChar (u : Nat) (rest : List Char) : Char × List Char :=
  if 0xD800 ≤ u ∧ u < 0xDC00 then
    match rest with
    | '\\' :: 'u' :: r =>
      match unit? r with
      | some (v, r') =>
        if 0xDC00 ≤ v ∧ v < 0xE000 then
          (Char.ofNat (0x10000 + (u - 0xD800) * 0x400 + (v - 0xDC00)), r')
        else (Char.ofNat 0xFFFD, rest)
      | none => (Char.ofNat 0xFFFD, rest)
    | _ => (Char.ofNat 0xFFFD, rest)
  else if 0xDC00 ≤ u ∧ u < 0xE000 then (Char.ofNat 0xFFFD, rest)
  else (Char.ofNat u, rest)

/-- The character of a one-letter escape. -/
def escape? : Char → Option Char
  | '"' => some '"'
  | '\\' => some '\\'
  | '/' => some '/'
  | 'b' => some (Char.ofNat 8)
  | 'f' => some (Char.ofNat 12)
  | 'n' => some '\n'
  | 'r' => some '\r'
  | 't' => some '\t'
  | _ => none

/-- The rest of a string after its opening quote; `done` holds what was read, last first. Each
step consumes a character, so the length of the text bounds the steps. -/
def stringTail? (done : List Char) : (fuel : Nat) → List Char → Option (String × List Char)
  | 0, _ => none
  | _ + 1, [] => none
  | fuel + 1, c :: r =>
    if c = '"' then some (String.ofList done.reverse, r)
    else if c = '\\' then
      match r with
      | 'u' :: r =>
        match unit? r with
        | some (u, r) => let (x, r) := unitChar u r; stringTail? (x :: done) fuel r
        | none => none
      | e :: r =>
        match escape? e with
        | some x => stringTail? (x :: done) fuel r
        | none => none
      | [] => none
    else if c.toNat < 0x20 then none
    else stringTail? (c :: done) fuel r

/-- A number: an integer unless it has a point or an exponent. -/
def number? (cs : List Char) : Option (Value × List Char) :=
  let (negative, body) := match cs with
    | '-' :: r => (true, r)
    | r => (false, r)
  let whole := match body with
    | '0' :: _ => ['0']
    | r => r.takeWhile Char.isDigit
  if whole = [] then none
  else
    let rest := body.drop whole.length
    let fraction := match rest with
      | '.' :: r => let ds := r.takeWhile Char.isDigit; if ds = [] then [] else '.' :: ds
      | _ => []
    let rest := rest.drop fraction.length
    let exponent := match rest with
      | e :: r =>
        if e = 'e' ∨ e = 'E' then
          let (sign, r) := match r with
            | '+' :: r => (['+'], r)
            | '-' :: r => (['-'], r)
            | r => ([], r)
          let ds := r.takeWhile Char.isDigit
          if ds = [] then [] else e :: sign ++ ds
        else []
      | [] => []
    let rest := rest.drop exponent.length
    if fraction = [] ∧ exponent = [] then
      let n := ofDigits (whole.map fun c => c.toNat - 48)
      some (.int (if negative then -n else n), rest)
    else
      (floatOfText? (String.ofList (whole ++ fraction ++ exponent))).map fun x =>
        (.float (match negative, x with
          | true, .finite _ m e h => .finite true m e h
          | true, .infinite _ => .infinite true
          | _, x => x), rest)

/-- The words that stand for values. -/
def words : List (String × Value) :=
  [("null", .null), ("true", .bool true), ("false", .bool false), ("NaN", .float .nan),
   ("Infinity", .float (.infinite false)), ("-Infinity", .float (.infinite true))]

/-- The value of a word at the start of a text. -/
def word? (cs : List Char) : Option (Value × List Char) :=
  words.findSome? fun (w, v) => (after? w.toList cs).map fun r => (v, r)

mutual

/-- A value at the start of a text. -/
def value? : (fuel : Nat) → List Char → Option (Value × List Char)
  | 0, _ => none
  | fuel + 1, cs =>
    match cs with
    | '"' :: r => (stringTail? [] (r.length + 1) r).map fun (s, r) => (.str s, r)
    | '[' :: r =>
      match skip r with
      | ']' :: r => some (.list [], r)
      | r => (items? fuel r).map fun (vs, r) => (.list vs, r)
    | '\x7b' :: r =>
      match skip r with
      | '\x7d' :: r => some (.map [], r)
      | r => (entries? fuel r).map fun (es, r) => (.map (Row.ofEntries es), r)
    | cs => (word? cs).orElse fun _ => number? cs

/-- The items of a list up to its bracket. -/
def items? : (fuel : Nat) → List Char → Option (List Value × List Char)
  | 0, _ => none
  | fuel + 1, cs =>
    match value? fuel cs with
    | none => none
    | some (v, r) =>
      match skip r with
      | ']' :: r => some ([v], r)
      | ',' :: r => (items? fuel (skip r)).map fun (vs, r) => (v :: vs, r)
      | _ => none

/-- The entries of a map up to its bracket. -/
def entries? : (fuel : Nat) → List Char → Option (List (String × Value) × List Char)
  | 0, _ => none
  | fuel + 1, cs =>
    match cs with
    | '"' :: r =>
      match stringTail? [] (r.length + 1) r with
      | none => none
      | some (k, r) =>
        match skip r with
        | ':' :: r =>
          match value? fuel (skip r) with
          | none => none
          | some (v, r) =>
            match skip r with
            | '\x7d' :: r => some ([(k, v)], r)
            | ',' :: r => (entries? fuel (skip r)).map fun (es, r) => ((k, v) :: es, r)
            | _ => none
        | _ => none
    | _ => none

end

/-- The value that a JSON text stands for. -/
def read? (s : String) : Option Value :=
  let cs := skip s.toList
  match value? (cs.length + 1) cs with
  | some (v, r) => if skip r = [] then some v else none
  | none => none

end EntityQuery.Json
