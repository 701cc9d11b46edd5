import EntityQuery.Number.Binary64
import EntityQuery.Number.Integer

/-!
# Reading floating point numbers

The text of a number is an optional sign, then digits with an optional point and exponent, or one
of the words `inf`, `infinity` and `nan` in any case. Underscores may stand between digits, and
digits may be of any script.
-/

namespace EntityQuery.Number

open Text (decimalValue? isDecimal)

/-- The digits at the start of a text, underscores between them skipped, and the rest. -/
def takeDigits : List Char → List Nat × List Char
  | [] => ([], [])
  | c :: '_' :: d :: r =>
    match decimalValue? c with
    | none => ([], c :: '_' :: d :: r)
    | some n =>
      if isDecimal d then let (ns, rest) := takeDigits (d :: r); (n :: ns, rest)
      else ([n], '_' :: d :: r)
  | c :: r =>
    match decimalValue? c with
    | none => ([], c :: r)
    | some n => let (ns, rest) := takeDigits r; (n :: ns, rest)

/-- The exponent that ends a numeral; zero when nothing is left. -/
def exponent? : List Char → Option Int
  | [] => some 0
  | c :: r =>
    if c = 'e' ∨ c = 'E' then
      let (negative, body) := takeSign r
      match takeDigits body with
      | ([], _) => none
      | (ds, []) => some (if negative then -(ofDigits ds : Int) else ofDigits ds)
      | _ => none
    else none

/-- Coefficient and power of ten of a numeral without sign. -/
def decimalParts? (cs : List Char) : Option (List Nat × Int) :=
  let (whole, rest) := takeDigits cs
  let (fraction, rest) := match rest with
    | '.' :: r => takeDigits r
    | r => ([], r)
  if whole = [] ∧ fraction = [] then none
  else (exponent? rest).map fun e => (whole ++ fraction, e - fraction.length)

/-- The number nearest to a decimal. Powers far out of range are not computed. -/
def Binary64.ofDecimal (negative : Bool) (digits : List Nat) (power : Int) : Binary64 :=
  let ds := digits.dropWhile (· == 0)
  let size : Int := ds.length + power
  if ds = [] ∨ size < -400 then zero negative
  else if 400 < size then .infinite negative
  else
    let n := ofDigits ds
    if 0 ≤ power then ofRatio negative (n * Nat.pow 10 power.toNat) 1
    else ofRatio negative n (Nat.pow 10 (-power).toNat)

/-- The number that a text stands for; blanks around it do not count. -/
def floatOfText? (s : String) : Option Binary64 :=
  let (negative, body) := takeSign (trimMargins s.toList)
  let word := body.map Char.toLower
  if word = "inf".toList ∨ word = "infinity".toList then some (.infinite negative)
  else if word = "nan".toList then some .nan
  else (decimalParts? body).map fun (ds, p) => .ofDecimal negative ds p

end EntityQuery.Number
