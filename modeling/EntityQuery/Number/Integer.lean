import EntityQuery.Text.Basic

/-!
# Integer text

A numeral is an optional sign and decimal digits of any script, with single underscores allowed
between digits. Blanks may stand around it, but not the four separators among them. Numerals of more
than `maxDigits` digits are refused.
-/

namespace EntityQuery.Number

open Text (decimalValue? isBlank stripChars)

/-- The longest numeral that is read. -/
def maxDigits : Nat := 4300

/-- The digits of a run in which single underscores may stand between digits. -/
def digitRun? : List Char → Option (List Nat)
  | [] => none
  | [c] => (decimalValue? c).map ([·])
  | c :: '_' :: r => do
    let d ← decimalValue? c
    let ds ← digitRun? r
    pure (d :: ds)
  | c :: r => do
    let d ← decimalValue? c
    let ds ← digitRun? r
    pure (d :: ds)

/-- The number that decimal digits stand for, most significant first. -/
def ofDigits (ds : List Nat) : Nat := ds.foldl (fun n d => 10 * n + d) 0

/-- The sign of a numeral, true for a minus, and what follows it. -/
def takeSign : List Char → Bool × List Char
  | '-' :: r => (true, r)
  | '+' :: r => (false, r)
  | r => (false, r)

/-- Whether a character may stand around a numeral: a blank, unless it separates files, groups,
records or units. -/
def isMargin (c : Char) : Bool := isBlank c && !(0x1C ≤ c.toNat && c.toNat ≤ 0x1F)

/-- The characters without what may stand around a numeral. -/
def trimMargins (cs : List Char) : List Char := stripChars isMargin cs

/-- The integer that a text stands for; blanks around it do not count. -/
def integerOfChars? (cs : List Char) : Option Int := do
  let (negative, body) := takeSign (trimMargins cs)
  let ds ← digitRun? body
  if ds.length ≤ maxDigits then
    pure (if negative then -(ofDigits ds : Int) else ofDigits ds)
  else none

/-- The integer that a text stands for. -/
def integerOfText? (s : String) : Option Int := integerOfChars? s.toList

/-- The decimal digits of a natural number. -/
def natText (n : Nat) : String := String.ofList (Nat.toDigits 10 n)

/-- The decimal numeral of an integer, however long it is. -/
def integerText (n : Int) : String :=
  if n < 0 then "-" ++ natText n.natAbs else natText n.natAbs

theorem natText_injective {m n : Nat} (h : natText m = natText n) : m = n := by
  have hdigits : Nat.toDigits 10 m = Nat.toDigits 10 n := String.ofList_injective h
  have hread : Nat.ofDigitChars 10 (Nat.toDigits 10 n) 0 = m :=
    hdigits ▸ Nat.ofDigitChars_ten_toDigits
  exact hread.symm.trans Nat.ofDigitChars_ten_toDigits

theorem isDigit_of_mem_natText {n : Nat} {c : Char} (h : c ∈ (natText n).toList) :
    c.isDigit = true := by
  rw [natText, String.toList_ofList] at h
  exact Nat.isDigit_of_mem_toDigits (by decide) (by decide) h

/-- No natural number is written with a minus sign. -/
theorem natText_ne_minus (n : Nat) (s : String) : natText n ≠ "-" ++ s := by
  intro h
  have hm : '-' ∈ (natText n).toList := by rw [h, String.toList_append]; exact List.mem_cons_self
  exact absurd (isDigit_of_mem_natText hm) (by decide)

/-- Numerals tell integers apart. -/
theorem integerText_injective {m n : Int} (h : integerText m = integerText n) : m = n := by
  unfold integerText at h
  split at h <;> split at h
  · have := natText_injective (String.append_right_inj _ |>.1 h)
    omega
  · exact absurd h.symm (natText_ne_minus _ _)
  · exact absurd h (natText_ne_minus _ _)
  · have := natText_injective h
    omega

/-- The numeral padded with zeros after its sign to a width that counts the sign. -/
def paddedText (width : Nat) (n : Int) : String :=
  let digits := Nat.toDigits 10 n.natAbs
  let lead := if n < 0 then ['-'] else []
  String.ofList (lead ++ List.replicate (width - lead.length - digits.length) '0' ++ digits)

end EntityQuery.Number
