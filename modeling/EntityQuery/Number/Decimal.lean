import EntityQuery.Number.FloatText

/-!
# Decimal numbers

Decimals of any size and precision, kept as coefficient and power of ten, so that trailing zeros
survive. `Decimal.text` is the scientific text of the general decimal arithmetic: positional while
the power is not positive and at most six zeros follow the point.
-/

namespace EntityQuery.Number

open Text (trimChars decimalValue?)

/-- A decimal `±coefficient · 10^power`, or a special value. -/
inductive Decimal where
  | finite (negative : Bool) (coefficient : Nat) (power : Int)
  | infinite (negative : Bool)
  | nan (negative signaling : Bool) (payload : Nat)
  deriving DecidableEq, Repr, Inhabited

namespace Decimal

/-- The text of a decimal. -/
def text : Decimal → String
  | .infinite negative => (if negative then "-" else "") ++ "Infinity"
  | .nan negative signaling payload =>
    (if negative then "-" else "") ++ (if signaling then "sNaN" else "NaN")
      ++ (if payload = 0 then "" else natText payload)
  | .finite negative coefficient power =>
    let digits := Nat.toDigits 10 coefficient
    let point : Int := digits.length + power
    let body : List Char :=
      if power ≤ 0 ∧ -6 < point then
        if power = 0 then digits
        else if point ≤ 0 then '0' :: '.' :: (List.replicate (-point).toNat '0' ++ digits)
        else digits.take point.toNat ++ '.' :: digits.drop point.toNat
      else
        let exponent := point - 1
        let mantissa := match digits with
          | d :: e :: r => d :: '.' :: e :: r
          | ds => ds
        mantissa ++ 'E' :: (if exponent < 0 then '-' else '+') :: Nat.toDigits 10 exponent.natAbs
    String.ofList (if negative then '-' :: body else body)

/-- The greatest exponent in use. -/
def maxExponent : Int := 999999999999999999

/-- The payload digits of a special value; none stand for zero. -/
def payload? (cs : List Char) : Option Nat :=
  if cs = [] then some 0 else (cs.mapM decimalValue?).map ofDigits

/-- The special value or number that a text without sign stands for. -/
def ofBody? (negative : Bool) (cs : List Char) : Option Decimal :=
  let word := cs.map Char.toLower
  if word = "inf".toList ∨ word = "infinity".toList then some (.infinite negative)
  else
    match Text.after? "nan".toList word, Text.after? "snan".toList word with
    | some rest, _ => (payload? rest).map (.nan negative false)
    | none, some rest => (payload? rest).map (.nan negative true)
    | none, none => do
      let (ds, power) ← decimalParts? cs
      let adjusted : Int := (ds.dropWhile (· == 0)).length + power - 1
      if adjusted ≤ maxExponent ∧ -2 * maxExponent ≤ power then
        pure (.finite negative (ofDigits ds) power)
      else none

/-- The decimal that a text stands for. Blanks around it and underscores do not count. -/
def ofText? (s : String) : Option Decimal :=
  let (negative, body) := takeSign ((trimChars s.toList).filter (· != '_'))
  ofBody? negative body

/-- Whether the value is zero. -/
def isZero : Decimal → Bool
  | .finite _ c _ => c == 0
  | _ => false

/-- The binary number nearest to a decimal. -/
def toBinary64 : Decimal → Binary64
  | .finite negative c p =>
    .ofDecimal negative ((Nat.toDigits 10 c).map fun d => d.toNat - 48) p
  | .infinite negative => .infinite negative
  | .nan .. => .nan

end Decimal

end EntityQuery.Number
