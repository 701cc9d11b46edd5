import EntityQuery.Number.Binary64
import EntityQuery.Number.Integer

/-!
# The shortest decimal text of a number

Every decimal inside the interval of reals that round to a number reads back as that number. For
one digit, two digits and so on the two decimals next to the number are tried; the first count of
digits with a decimal in the interval wins, and of two the nearer one.
-/

namespace EntityQuery.Number

/-- A positive number `value · 2^unit` with the ends of the interval that rounds to it, all in one
unit. The ends count as inside when `closed`. -/
structure Neighbourhood where
  low : Nat
  value : Nat
  high : Nat
  unit : Int
  closed : Bool

/-- The neighbourhood of a positive number. Below a power of two the numbers lie twice as
close. -/
def Neighbourhood.of (m : Nat) (e : Int) : Neighbourhood :=
  { low := if m = Nat.pow 2 52 ∧ e ≠ -1074 then 4 * m - 1 else 4 * m - 2
    value := 4 * m
    high := 4 * m + 2
    unit := e - 2
    closed := m % 2 = 0 }

/-- Numerator and denominator of `n · 2^unit / 10^p`. -/
def onGrid (n : Nat) (unit p : Int) : Nat × Nat :=
  let (a, b) := if 0 ≤ unit then (n * Nat.pow 2 unit.toNat, 1) else (n, Nat.pow 2 (-unit).toNat)
  if 0 ≤ p then (a, b * Nat.pow 10 p.toNat) else (a * Nat.pow 10 (-p).toNat, b)

/-- Whether `d · 10^p` lies in the neighbourhood. -/
def Neighbourhood.holds (v : Neighbourhood) (d : Nat) (p : Int) : Bool :=
  let (ln, ld) := onGrid v.low v.unit p
  let (hn, hd) := onGrid v.high v.unit p
  if v.closed then ln ≤ d * ld && d * hd ≤ hn else ln < d * ld && d * hd < hn

/-- The power of ten of the leading digit of `n · 2^unit`. -/
def leadingPower (n : Nat) (unit : Int) : Int :=
  let guess : Int := Int.fdiv (((Nat.log2 n : Int) + unit) * 30103) 100000
  let below (p : Int) : Bool := let (a, b) := onGrid n unit p; a < b
  if below guess then guess - 1 else if below (guess + 1) then guess else guess + 1

/-- A decimal of `d · 10^p` in the neighbourhood with the digits from place `p` on, the nearer
one, or the even one of two that are as near. -/
def Neighbourhood.decimalAt? (v : Neighbourhood) (p : Int) : Option Nat :=
  let (n, d) := onGrid v.value v.unit p
  let low := n / d
  match v.holds low p, v.holds (low + 1) p with
  | true, true =>
    let r := n % d
    if 2 * r < d then some low
    else if d < 2 * r then some (low + 1)
    else some (if low % 2 = 0 then low else low + 1)
  | true, false => some low
  | false, true => some (low + 1)
  | false, false => none

/-- Digits and power of ten of the shortest decimal, looking from place `p` down. -/
def Neighbourhood.search (v : Neighbourhood) (p : Int) : Nat → Nat × Int
  | 0 => let (n, d) := onGrid v.value v.unit p; (Binary64.roundHalfEven n d, p)
  | fuel + 1 =>
    match v.decimalAt? p with
    | some d => (d, p)
    | none => v.search (p - 1) fuel

/-- The digits of the shortest decimal and the place of its point: `0.d₁d₂… · 10^point`. -/
def shortestDigits (m : Nat) (e : Int) : List Char × Int :=
  let v := Neighbourhood.of m e
  let (d, p) := v.search (leadingPower v.value v.unit) 17
  let digits := Nat.toDigits 10 d
  ((digits.reverse.dropWhile (· == '0')).reverse, digits.length + p)

/-- How numbers are written: positionally when the point lies in `[minPoint, maxPoint]`, otherwise
with an exponent of at least `exponentWidth` digits. -/
structure NumberStyle where
  minPoint : Int
  maxPoint : Int
  exponentWidth : Nat

/-- Positional between `0.0001` and `10^16`; two digits of exponent. -/
def plainStyle : NumberStyle := ⟨-3, 16, 2⟩

/-- Shortest digits, placed as the style says. An integer keeps one zero behind its point. -/
def NumberStyle.place (style : NumberStyle) (digits : List Char) (point : Int) : List Char :=
  if style.minPoint ≤ point ∧ point ≤ style.maxPoint then
    if point ≤ 0 then '0' :: '.' :: (List.replicate (-point).toNat '0' ++ digits)
    else
      let whole := digits.take point.toNat
      let fraction := digits.drop point.toNat
      whole ++ List.replicate (point.toNat - whole.length) '0' ++ '.'
        :: (if fraction = [] then ['0'] else fraction)
  else
    let exponent := point - 1
    let e := Nat.toDigits 10 exponent.natAbs
    let body := match digits with
      | [] => ['0']
      | [d] => [d]
      | d :: r => d :: '.' :: r
    body ++ 'e' :: (if exponent < 0 then '-' else '+')
      :: (List.replicate (style.exponentWidth - e.length) '0' ++ e)

/-- The text of a number: the fewest digits that read back. -/
def Binary64.text : Binary64 → String
  | .nan => "nan"
  | .infinite negative => if negative then "-inf" else "inf"
  | .finite negative m e _ =>
    let body :=
      if m = 0 then ['0', '.', '0']
      else let (digits, point) := shortestDigits m e; plainStyle.place digits point
    String.ofList (if negative then '-' :: body else body)

end EntityQuery.Number
