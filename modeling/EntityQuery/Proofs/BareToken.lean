import EntityQuery.Codec.Basic
import Mathlib.Data.List.TakeDrop

/-!
# Text that ends nothing

A character of a bare token is no quote, no blank, no comma and no parenthesis. Numerals, decimals,
moments and durations are written in such characters, and so is every text that reads as a numeral,
in the digits of any script.
-/

namespace EntityQuery

open Calendar Number

/-- Whether a character can neither end a token nor open or close anything. -/
def isTokenChar (c : Char) : Bool :=
  !Text.isBlank c && c != '\'' && c != ',' && c != '(' && c != ')'

/-- Whether a text holds characters of tokens only. -/
def isTokenText (s : String) : Bool := s.toList.all isTokenChar

theorem isTokenText_append (s t : String) :
    isTokenText (s ++ t) = (isTokenText s && isTokenText t) := by
  rw [isTokenText, String.toList_append, List.all_append, isTokenText, isTokenText]

theorem isTokenText_ofList (cs : List Char) :
    isTokenText (String.ofList cs) = cs.all isTokenChar := by
  rw [isTokenText, String.toList_ofList]

theorem isTokenChar_of_isDecimal {c : Char} (h : Text.isDecimal c = true) :
    isTokenChar c = true := by
  have hall : ∀ z ∈ Text.zeros, ∀ i < 10, Text.inRanges Text.blankRanges (z + i) = false ∧
      z + i ∉ ['\'', ',', '(', ')'].map Char.toNat := by
    decide +kernel
  obtain ⟨n, hn⟩ := Option.isSome_iff_exists.1 h
  obtain ⟨z, hz, -⟩ := Option.map_eq_some_iff.1 hn
  have hrange := List.find?_some hz
  simp only [Bool.and_eq_true, decide_eq_true_eq] at hrange
  obtain ⟨hblank, hmarks⟩ := hall z (List.mem_of_find?_eq_some hz) (c.toNat - z) (by omega)
  rw [show z + (c.toNat - z) = c.toNat by omega] at hblank hmarks
  have hne (d : Char) (hd : d ∈ ['\'', ',', '(', ')']) : c ≠ d := by
    rintro rfl
    exact hmarks (List.mem_map_of_mem hd)
  simp only [isTokenChar, Text.isBlank, hblank, Bool.not_false, Bool.true_and, Bool.and_eq_true,
    bne_iff_ne]
  exact ⟨⟨⟨hne _ (by decide), hne _ (by decide)⟩, hne _ (by decide)⟩, hne _ (by decide)⟩

theorem all_toDigits (n : Nat) : (Nat.toDigits 10 n).all isTokenChar = true := by
  rw [List.all_eq_true]
  exact fun c hc => isTokenChar_of_isDecimal
    (Text.isDecimal_of_isDigit_ascii (Nat.isDigit_of_mem_toDigits (by decide) (by decide) hc))

theorem isTokenText_natText (n : Nat) : isTokenText (natText n) = true := by
  rw [natText, isTokenText_ofList, all_toDigits]

theorem isTokenText_integerText (n : Int) : isTokenText (integerText n) = true := by
  rw [integerText]
  split
  · rw [isTokenText_append, isTokenText_natText]
    rfl
  · exact isTokenText_natText _

theorem all_replicate_zero (n : Nat) : (List.replicate n '0').all isTokenChar = true := by
  rw [List.all_eq_true]
  intro c hc
  rw [List.eq_of_mem_replicate hc]
  decide

theorem isTokenText_paddedText (width : Nat) (n : Int) :
    isTokenText (paddedText width n) = true := by
  rw [paddedText, isTokenText_ofList, List.all_append, List.all_append, all_replicate_zero,
    all_toDigits]
  split <;> decide

theorem natText_ne_empty (n : Nat) : natText n ≠ "" := by
  rw [natText, ne_eq, String.ofList_eq_empty_iff]
  exact Nat.toDigits_ne_nil

theorem integerText_ne_empty (n : Int) : integerText n ≠ "" := by
  rw [integerText]
  split
  · simp [String.append_eq_empty_iff]
  · exact natText_ne_empty _

theorem isTokenText_decimalText (d : Decimal) : isTokenText d.text = true := by
  cases d with
  | infinite negative => cases negative <;> decide
  | nan negative signaling payload =>
    have hpayload : isTokenText (if payload = 0 then "" else natText payload) = true := by
      split
      · rfl
      · exact isTokenText_natText _
    rw [Decimal.text, isTokenText_append, isTokenText_append, hpayload]
    cases negative <;> cases signaling <;> decide
  | finite negative coefficient power =>
    have hdigits := all_toDigits coefficient
    have hmarks : isTokenChar '.' = true ∧ isTokenChar '0' = true ∧ isTokenChar '-' = true ∧
      isTokenChar '+' = true ∧ isTokenChar 'E' = true := by decide
    obtain ⟨hpoint, hzero, hminus, hplus, hexp⟩ := hmarks
    rw [Decimal.text, isTokenText_ofList]
    generalize Nat.toDigits 10 coefficient = digits at hdigits ⊢
    have htake (n : Nat) : (digits.take n).all isTokenChar = true := by
      rw [List.all_eq_true] at hdigits ⊢
      exact fun c hc => hdigits c (List.mem_of_mem_take hc)
    have hdrop (n : Nat) : (digits.drop n).all isTokenChar = true := by
      rw [List.all_eq_true] at hdigits ⊢
      exact fun c hc => hdigits c (List.mem_of_mem_drop hc)
    have hsign (body : List Char) :
        (if negative then '-' :: body else body).all isTokenChar = body.all isTokenChar := by
      cases negative with
      | false => rfl
      | true => rw [if_pos rfl, List.all_cons, hminus, Bool.true_and]
    dsimp only
    rw [hsign]
    split
    · split
      · exact hdigits
      · split
        · simp only [List.all_cons, List.all_append, all_replicate_zero, hzero, hpoint, hdigits,
            Bool.and_self]
        · simp only [List.all_cons, List.all_append, htake, hdrop, hpoint, Bool.and_self]
    · rw [List.all_append, List.all_cons, List.all_cons, hexp, all_toDigits, Bool.and_eq_true]
      constructor
      · split
        · simpa only [List.all_cons, hpoint, Bool.true_and] using hdigits
        · exact hdigits
      · split <;> simp only [hminus, hplus, Bool.and_self]

theorem decimalText_ne_empty (d : Decimal) : d.text ≠ "" := by
  cases d with
  | infinite negative => cases negative <;> decide
  | nan negative signaling payload =>
    cases signaling <;> simp [Decimal.text, String.append_eq_empty_iff]
  | finite negative coefficient power =>
    rw [Decimal.text, ne_eq, String.ofList_eq_empty_iff]
    cases negative with
    | true => exact List.cons_ne_nil _ _
    | false =>
      rw [if_neg Bool.false_ne_true]
      dsimp only
      split
      · split
        · exact Nat.toDigits_ne_nil
        · split
          · exact List.cons_ne_nil _ _
          · exact List.append_ne_nil_of_right_ne_nil _ (List.cons_ne_nil _ _)
      · exact List.append_ne_nil_of_right_ne_nil _ (List.cons_ne_nil _ _)

theorem isTokenText_clockText (t : TimeOfDay) : isTokenText t.clockText = true := by
  simp only [TimeOfDay.clockText, two, isTokenText_append, isTokenText_paddedText]
  rfl

theorem isTokenText_shortText (t : DateTime) : isTokenText (t.shortText "T") = true := by
  simp only [DateTime.shortText, Date.shortText, two, isTokenText_append, isTokenText_paddedText,
    isTokenText_natText, isTokenText_clockText]
  rfl

theorem isTokenText_duration (c : Typed.Clock) : isTokenText c.duration = true := by
  have hsecond : isTokenText ((c.second.map fun s => paddedText 2 s ++ "S").getD "") = true := by
    cases c.second with
    | none => rfl
    | some s =>
      rw [Option.map_some, Option.getD_some, isTokenText_append, isTokenText_paddedText]
      rfl
  simp only [Typed.Clock.duration, isTokenText_append, isTokenText_paddedText, hsecond]
  rfl

theorem all_of_takeSign {cs : List Char} (h : (takeSign cs).2.all isTokenChar = true) :
    cs.all isTokenChar = true := by
  have hminus : isTokenChar '-' = true := by decide
  have hplus : isTokenChar '+' = true := by decide
  unfold takeSign at h
  split at h
  · rwa [List.all_cons, hminus, Bool.true_and]
  · rwa [List.all_cons, hplus, Bool.true_and]
  · exact h

theorem all_of_spanDecimals {cs : List Char} (h : (spanDecimals cs).2.all isTokenChar = true) :
    cs.all isTokenChar = true := by
  rw [spanDecimals, List.span_eq_takeWhile_dropWhile] at h
  rw [← List.takeWhile_append_dropWhile (p := Text.isDecimal) (l := cs), List.all_append, h,
    Bool.and_true, List.all_eq_true]
  exact fun c hc => isTokenChar_of_isDecimal (List.all_eq_true.1 List.all_takeWhile c hc)

theorem all_of_isExponent {cs : List Char} (h : isExponent cs = true) :
    cs.all isTokenChar = true := by
  cases cs with
  | nil => rfl
  | cons c r =>
    simp only [isExponent, Bool.and_eq_true, Bool.or_eq_true, beq_iff_eq] at h
    obtain ⟨⟨hc, -⟩, hrest⟩ := h
    have hmark : isTokenChar c = true := by
      rcases hc with rfl | rfl <;> decide
    rw [List.all_cons, hmark, Bool.true_and]
    exact all_of_takeSign (all_of_spanDecimals (by rw [hrest]; rfl))

/-- A numeral holds digits, a sign, a point and an exponent mark. -/
theorem all_of_isNumeral {cs : List Char} (h : isNumeral cs = true) :
    cs.all isTokenChar = true := by
  refine all_of_takeSign (all_of_spanDecimals ?_)
  unfold isNumeral at h
  dsimp only at h
  split at h
  · rename_i r hr
    have hpoint : isTokenChar '.' = true := by decide
    rw [hr, List.all_cons, hpoint, Bool.true_and]
    exact all_of_spanDecimals (all_of_isExponent (Bool.and_eq_true_iff.1 h).2)
  · exact all_of_isExponent (Bool.and_eq_true_iff.1 h).2

theorem ne_nil_of_isNumeral {cs : List Char} (h : isNumeral cs = true) : cs ≠ [] := by
  rintro rfl
  revert h
  decide

end EntityQuery
