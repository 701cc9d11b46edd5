/-!
# Binary floating point numbers of 64 bits

A finite number is a sign, a significand below `2^53` and a power of two. `ofRatio` rounds a
quotient of naturals to the nearest such number, ties to the even significand. Order and
truncation are exact, over the integer multiples of `2^-1074`.
-/

namespace EntityQuery.Number

/-- The pairs of significand and exponent in use: normal numbers have 53 bits, and only the least
exponent takes fewer. -/
def Canonical (significand : Nat) (exponent : Int) : Prop :=
  significand < Nat.pow 2 53 ∧ (Nat.pow 2 52 ≤ significand ∨ exponent = -1074)
    ∧ -1074 ≤ exponent ∧ exponent ≤ 971

instance (m : Nat) (e : Int) : Decidable (Canonical m e) := by unfold Canonical; infer_instance

/-- A number of 64 bits: `±significand · 2^exponent`, an infinity, or no number. -/
inductive Binary64 where
  | nan
  | infinite (negative : Bool)
  | finite (negative : Bool) (significand : Nat) (exponent : Int)
      (canonical : Canonical significand exponent)
  deriving DecidableEq

namespace Binary64

/-- Zero of either sign. -/
def zero (negative : Bool) : Binary64 := .finite negative 0 (-1074) (by decide)

instance : Inhabited Binary64 := ⟨zero false⟩

/-- The number with the given parts, or an infinity when they lie out of range. -/
def ofParts (negative : Bool) (m : Nat) (e : Int) : Binary64 :=
  if h : Canonical m e then .finite negative m e h else .infinite negative

/-- `num / den` rounded to a natural number, halves to the even one. -/
def roundHalfEven (num den : Nat) : Nat :=
  let q := num / den
  let r := num % den
  if 2 * r < den then q else if den < 2 * r then q + 1 else if q % 2 = 0 then q else q + 1

/-- The numerator and denominator of `(num / den) / 2^e`. -/
def scaleRatio (num den : Nat) (e : Int) : Nat × Nat :=
  if 0 ≤ e then (num, den * Nat.pow 2 e.toNat) else (num * Nat.pow 2 (-e).toNat, den)

/-- The exponent at which `num / den` has a significand of 53 bits, not below the least one. -/
def exponentOf (num den : Nat) : Int :=
  let e : Int := (Nat.log2 num : Int) - Nat.log2 den - 52
  let (n, d) := scaleRatio num den e
  max (if n < Nat.pow 2 52 * d then e - 1 else e) (-1074)

/-- The number nearest to `num / den`, ties to the even significand. -/
def ofRatio (negative : Bool) (num den : Nat) : Binary64 :=
  if num = 0 then zero negative
  else
    let e := exponentOf num den
    let (n, d) := scaleRatio num den e
    let m := roundHalfEven n d
    if m = Nat.pow 2 53 then ofParts negative (Nat.pow 2 52) (e + 1) else ofParts negative m e

/-- The number nearest to an integer. -/
def ofInt (n : Int) : Binary64 := ofRatio (n < 0) n.natAbs 1

/-- A finite number in units of `2^-1074`. -/
def scaled (negative : Bool) (m : Nat) (e : Int) : Int :=
  let n := Int.ofNat (m * Nat.pow 2 (e + 1074).toNat)
  if negative then -n else n

/-- Whether the first number is less; nothing compares with `nan`. -/
def lt : Binary64 → Binary64 → Bool
  | .nan, _ | _, .nan => false
  | .infinite a, .infinite b => a && !b
  | .infinite a, .finite .. => a
  | .finite .., .infinite b => !b
  | .finite a m e _, .finite b n f _ => scaled a m e < scaled b n f

/-- Whether two numbers are equal; the zeros are, and `nan` differs from itself. -/
def eq : Binary64 → Binary64 → Bool
  | .infinite a, .infinite b => a == b
  | .finite a m e _, .finite b n f _ => scaled a m e == scaled b n f
  | _, _ => false

/-- The integer part of a finite number. -/
def truncate? : Binary64 → Option Int
  | .finite negative m e _ =>
    let n : Nat := if 0 ≤ e then m * Nat.pow 2 e.toNat else m / Nat.pow 2 (-e).toNat
    some (if negative then -n else n)
  | _ => none

/-- Whether the number is an integer. -/
def isInteger : Binary64 → Bool
  | .finite _ m e _ => 0 ≤ e || m % Nat.pow 2 (-e).toNat == 0
  | _ => false

/-- Whether the number equals an integer exactly. -/
def eqInt (x : Binary64) (n : Int) : Bool := x.isInteger && x.truncate? == some n

/-- Whether the number is zero. -/
def isZero : Binary64 → Bool
  | .finite _ m _ _ => m == 0
  | _ => false

end Binary64

end EntityQuery.Number
