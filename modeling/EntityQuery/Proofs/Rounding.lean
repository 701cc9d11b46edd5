import EntityQuery.Number.Binary64
import Mathlib.Algebra.Order.Ring.Nat
import Mathlib.Tactic.Linarith
import Mathlib.Tactic.Ring

/-!
# Quotients in 64 bits

A quotient that is far from the greatest exponents is rounded to a number whose integer part lies
within one of the quotient (`truncate?_ofRatio`): rounding moves the quotient by less than a unit of
the last place, which for quotients below `2^52` is a unit or less. The integer part is that of the
quotient, or the next integer where this is as close as half a unit of the last place
(`truncate?_ofRatio_eq`).
-/

namespace EntityQuery.Number.Binary64

variable {num den : Nat}

theorem div_le_roundHalfEven : num / den ≤ roundHalfEven num den := by
  unfold roundHalfEven
  dsimp only
  split_ifs <;> omega

theorem roundHalfEven_mul_lt (num : Nat) (hden : 0 < den) :
    roundHalfEven num den * den < num + den := by
  have hdiv := Nat.div_add_mod' num den
  have hnext : (num / den + 1) * den = num / den * den + den := Nat.succ_mul _ _
  unfold roundHalfEven
  dsimp only
  split_ifs <;> omega

theorem le_roundHalfEven {k : Nat} (hden : 0 < den) (h : k * den ≤ num) :
    k ≤ roundHalfEven num den :=
  ((Nat.le_div_iff_mul_le hden).2 h).trans div_le_roundHalfEven

theorem roundHalfEven_le {k : Nat} (hden : 0 < den) (h : num < k * den) :
    roundHalfEven num den ≤ k := by
  have hlt := roundHalfEven_mul_lt num hden
  have hless : roundHalfEven num den * den < (k + 1) * den := by
    rw [Nat.add_mul, Nat.one_mul]
    omega
  exact Nat.le_of_lt_succ (Nat.lt_of_mul_lt_mul_right hless)

/-- Rounding reaches an even number from half a unit below it on. -/
theorem le_roundHalfEven_iff {k : Nat} (hden : 0 < den) (heven : k % 2 = 0) :
    k ≤ roundHalfEven num den ↔ 2 * (k * den) ≤ 2 * num + den := by
  have hdiv := Nat.div_add_mod' num den
  have hmod := Nat.mod_lt num hden
  have hround : roundHalfEven num den =
      if 2 * (num % den) < den then num / den
      else if den < 2 * (num % den) then num / den + 1
      else if num / den % 2 = 0 then num / den else num / den + 1 := rfl
  rw [hround]
  generalize num / den = q at hdiv ⊢
  generalize num % den = r at hdiv hmod ⊢
  obtain hk | rfl | hk : k ≤ q ∨ k = q + 1 ∨ q + 2 ≤ k := by omega
  · have hmul := Nat.mul_le_mul_right den hk
    refine iff_of_true ?_ (by omega)
    split_ifs <;> omega
  · rw [Nat.add_mul, Nat.one_mul]
    split_ifs <;> omega
  · have hmul := Nat.mul_le_mul_right den hk
    rw [Nat.add_mul] at hmul
    refine iff_of_false ?_ (by omega)
    split_ifs <;> omega

theorem scaleRatio_neg (k : Nat) : scaleRatio num den (-(k : Int)) = (num * 2 ^ k, den) := by
  unfold scaleRatio
  split_ifs with h
  · obtain rfl : k = 0 := by omega
    simp
  · simp

/-- A quotient below `2^52` is scaled up to 53 bits. -/
theorem exists_exponentOf (hnum : num ≠ 0) (hden : den ≠ 0) (hlarge : den < 2 ^ 200)
    (hsmall : num < 2 ^ 52 * den) :
    ∃ j : Nat, 1 ≤ j ∧ j ≤ 1074 ∧ exponentOf num den = -(j : Int) ∧
      2 ^ 52 * den ≤ num * 2 ^ j ∧ num * 2 ^ j < 2 ^ 53 * den := by
  have hnum₁ := Nat.log2_self_le hnum
  have hnum₂ := Nat.lt_log2_self (n := num)
  have hden₁ := Nat.log2_self_le hden
  have hden₂ := Nat.lt_log2_self (n := den)
  have hbits : den.log2 < 200 := (Nat.log2_lt hden).2 hlarge
  have hless : num.log2 < den.log2 + 53 := by
    have hpow : 2 ^ num.log2 < 2 ^ (den.log2 + 53) := by
      calc 2 ^ num.log2 ≤ num := hnum₁
        _ < 2 ^ 52 * den := hsmall
        _ < 2 ^ 52 * 2 ^ (den.log2 + 1) := by omega
        _ = 2 ^ (den.log2 + 53) := by rw [← Nat.pow_add, Nat.add_comm, Nat.add_assoc]
    exact (Nat.pow_lt_pow_iff_right (by decide)).1 hpow
  obtain ⟨k, hk⟩ := Nat.exists_eq_add_of_lt hless
  have hmost : num * 2 ^ k < 2 ^ 53 * den := by
    calc num * 2 ^ k < 2 ^ (num.log2 + 1) * 2 ^ k :=
          Nat.mul_lt_mul_of_pos_right hnum₂ (Nat.two_pow_pos k)
      _ = 2 ^ 53 * 2 ^ den.log2 := by
          rw [← Nat.pow_add, ← Nat.pow_add, show num.log2 + 1 + k = 53 + den.log2 by omega]
      _ ≤ 2 ^ 53 * den := Nat.mul_le_mul_left _ hden₁
  have hleast : 2 ^ 51 * den < num * 2 ^ k := by
    calc 2 ^ 51 * den < 2 ^ 51 * 2 ^ (den.log2 + 1) := Nat.mul_lt_mul_of_pos_left hden₂ (by decide)
      _ = 2 ^ num.log2 * 2 ^ k := by
          rw [← Nat.pow_add, ← Nat.pow_add, show 51 + (den.log2 + 1) = num.log2 + k by omega]
      _ ≤ num * 2 ^ k := Nat.mul_le_mul_right _ hnum₁
  have hexponent : (num.log2 : Int) - den.log2 - 52 = -(k : Int) := by omega
  unfold exponentOf
  simp only [hexponent, scaleRatio_neg, Nat.pow_eq]
  split_ifs with h
  · have hdouble : num * 2 ^ (k + 1) = 2 * (num * 2 ^ k) := by ring
    exact ⟨k + 1, by omega, by omega, by omega, by omega, by omega⟩
  · refine ⟨k, ?_, by omega, by omega, by omega, hmost⟩
    by_contra hzero
    obtain rfl : k = 0 := by omega
    omega

theorem truncate?_ofParts (negative : Bool) {m j : Nat} (hmost : m < 2 ^ 53) (hleast : 2 ^ 52 ≤ m)
    (hj : j ≤ 1074) :
    (ofParts negative m (-(j : Int))).truncate? =
      some (if negative then -((m / 2 ^ j : Nat) : Int) else (m / 2 ^ j : Nat)) := by
  have hcanonical : Canonical m (-(j : Int)) := ⟨hmost, .inl hleast, by omega, by omega⟩
  have hscale : (if (0 : Int) ≤ -(j : Int) then m * Nat.pow 2 (-(j : Int)).toNat
      else m / Nat.pow 2 (- -(j : Int)).toNat) = m / 2 ^ j := by
    split_ifs with h
    · obtain rfl : j = 0 := by omega
      simp
    · simp
  rw [ofParts, dif_pos hcanonical, truncate?]
  simp only [hscale]

/-- What is rounded to 53 bits is cut to its integer part, a last carry included. -/
theorem truncate?_rounded (negative : Bool) {m j : Nat} (hmost : m ≤ 2 ^ 53) (hleast : 2 ^ 52 ≤ m)
    (hpos : 1 ≤ j) (hj : j ≤ 1074) :
    (if m = 2 ^ 53 then ofParts negative (2 ^ 52) (-(j : Int) + 1)
      else ofParts negative m (-(j : Int))).truncate? =
      some (if negative then -((m / 2 ^ j : Nat) : Int) else (m / 2 ^ j : Nat)) := by
  by_cases h : m = 2 ^ 53
  · obtain ⟨i, rfl⟩ := Nat.exists_eq_add_of_le' hpos
    have hexponent : -((i + 1 : Nat) : Int) + 1 = -(i : Int) := by omega
    have hhalf : m / 2 ^ (i + 1) = 2 ^ 52 / 2 ^ i := by
      rw [h, Nat.pow_succ 2 i]
      exact Nat.mul_div_mul_right (2 ^ 52) (2 ^ i) Nat.two_pos
    rw [if_pos h, hexponent, hhalf]
    exact truncate?_ofParts negative (by decide) le_rfl (by omega)
  · rw [if_neg h]
    exact truncate?_ofParts negative (by omega) hleast hj

/-- The integer part of a rounded quotient, with the bits that stand behind its point. -/
theorem exists_truncate?_ofRatio (negative : Bool) (hnum : num ≠ 0) (hden : den ≠ 0)
    (hlarge : den < 2 ^ 200) (hsmall : num < 2 ^ 52 * den) : ∃ j : Nat, 1 ≤ j ∧
      2 ^ 52 * den ≤ num * 2 ^ j ∧ num * 2 ^ j < 2 ^ 53 * den ∧
      (ofRatio negative num den).truncate? =
        some (if negative then -((roundHalfEven (num * 2 ^ j) den / 2 ^ j : Nat) : Int)
          else (roundHalfEven (num * 2 ^ j) den / 2 ^ j : Nat)) := by
  have hpos := Nat.pos_of_ne_zero hden
  obtain ⟨j, hj, hj', hexponent, hleast, hmost⟩ := exists_exponentOf hnum hden hlarge hsmall
  refine ⟨j, hj, hleast, hmost, ?_⟩
  rw [ofRatio, if_neg hnum]
  simp only [hexponent, scaleRatio_neg, Nat.pow_eq]
  exact truncate?_rounded negative (roundHalfEven_le hpos hmost) (le_roundHalfEven hpos hleast)
    hj hj'

theorem truncate?_ofRatio_zero (negative : Bool) (den : Nat) :
    (ofRatio negative 0 den).truncate? = some 0 := by
  rw [ofRatio, if_pos rfl]
  simp only [zero, truncate?, Nat.zero_mul, Nat.zero_div, ite_self, Int.natCast_zero, Int.neg_zero]

theorem div_le_rounded (hden : 0 < den) (j : Nat) :
    num / den ≤ roundHalfEven (num * 2 ^ j) den / 2 ^ j := by
  have hdiv : num / den * 2 ^ j ≤ roundHalfEven (num * 2 ^ j) den := by
    refine le_roundHalfEven hden ?_
    rw [Nat.mul_right_comm]
    exact Nat.mul_le_mul_right _ (Nat.div_mul_le_self num den)
  exact (Nat.le_div_iff_mul_le (Nat.two_pow_pos j)).2 hdiv

theorem rounded_mul_lt (hden : 0 < den) (j : Nat) :
    roundHalfEven (num * 2 ^ j) den / 2 ^ j * den < num + den := by
  have hround := roundHalfEven_mul_lt (num * 2 ^ j) hden
  have hcut := Nat.div_mul_le_self (roundHalfEven (num * 2 ^ j) den) (2 ^ j)
  have hone := Nat.one_le_two_pow (n := j)
  refine Nat.lt_of_mul_lt_mul_right (a := 2 ^ j) ?_
  nlinarith

/-- The integer part of a quotient, once rounded, is within one of the quotient. -/
theorem truncate?_ofRatio (negative : Bool) (hden : den ≠ 0) (hlarge : den < 2 ^ 200)
    (hsmall : num < 2 ^ 52 * den) : ∃ n : Nat,
      (ofRatio negative num den).truncate? = some (if negative then -(n : Int) else n) ∧
        num / den ≤ n ∧ n * den < num + den := by
  have hpos := Nat.pos_of_ne_zero hden
  by_cases hnum : num = 0
  · refine ⟨0, ?_, by simp [hnum], by omega⟩
    rw [hnum, truncate?_ofRatio_zero]
    simp
  · obtain ⟨j, -, -, -, htruncate⟩ := exists_truncate?_ofRatio negative hnum hden hlarge hsmall
    exact ⟨_, htruncate, div_le_rounded hpos j, rounded_mul_lt hpos j⟩

/-- A quotient is as close below the next integer as half a unit of its last place. -/
def RoundsUp (num den : Nat) : Prop :=
  (den - num % den) * 2 ^ (53 - (num / den).log2) ≤ den

instance (num den : Nat) : Decidable (RoundsUp num den) := by unfold RoundsUp; infer_instance

theorem next_le_rounded_iff (hden : 0 < den) {j : Nat} (hj : 1 ≤ j) :
    num / den + 1 ≤ roundHalfEven (num * 2 ^ j) den / 2 ^ j ↔
      (den - num % den) * 2 ^ (j + 1) ≤ den := by
  have heven : (num / den + 1) * 2 ^ j % 2 = 0 := by
    obtain ⟨i, rfl⟩ := Nat.exists_eq_add_of_le' hj
    rw [Nat.pow_succ, ← Nat.mul_assoc, Nat.mul_mod_left]
  have hdiv := Nat.div_add_mod' num den
  have hmod := Nat.mod_lt num hden
  have hgap : (num / den + 1) * den = num + (den - num % den) := by
    rw [Nat.add_mul, Nat.one_mul]
    omega
  have hscaled : (num / den + 1) * 2 ^ j * den = num * 2 ^ j + (den - num % den) * 2 ^ j := by
    rw [Nat.mul_right_comm, hgap, Nat.add_mul]
  have hdouble : (den - num % den) * 2 ^ (j + 1) = 2 * ((den - num % den) * 2 ^ j) := by ring
  rw [Nat.le_div_iff_mul_le (Nat.two_pow_pos j), le_roundHalfEven_iff hden heven, hscaled, hdouble]
  omega

theorem lt_of_two_pow_mul_lt {a b c : Nat} (h : 2 ^ a * c < 2 ^ b * c) : a < b :=
  (Nat.pow_lt_pow_iff_right (by decide)).1 (Nat.lt_of_mul_lt_mul_right h)

/-- The bits behind the point are those that the integer part leaves of 53. -/
theorem gap_le_iff_roundsUp (hden : 0 < den) (hlarge : den < 2 ^ 53) {j : Nat}
    (hleast : 2 ^ 52 * den ≤ num * 2 ^ j) (hmost : num * 2 ^ j < 2 ^ 53 * den) :
    (den - num % den) * 2 ^ (j + 1) ≤ den ↔ RoundsUp num den := by
  have hdiv := Nat.div_add_mod' num den
  have hmod := Nat.mod_lt num hden
  by_cases hzero : num / den = 0
  · have hless : num < den := by
      rw [hzero] at hdiv
      omega
    have hbits : 52 < j := by
      refine lt_of_two_pow_mul_lt (c := den) ?_
      calc 2 ^ 52 * den ≤ num * 2 ^ j := hleast
        _ < den * 2 ^ j := Nat.mul_lt_mul_of_pos_right hless (Nat.two_pow_pos j)
        _ = 2 ^ j * den := Nat.mul_comm _ _
    have hfar (k : Nat) (hk : 53 ≤ k) : ¬(den - num % den) * 2 ^ k ≤ den := by
      have hpow := Nat.pow_le_pow_right (by decide : 0 < 2) hk
      have hmul := Nat.mul_le_mul_right (2 ^ k) (by omega : 1 ≤ den - num % den)
      omega
    rw [RoundsUp, hzero]
    exact iff_of_false (hfar _ (by omega)) (hfar _ (by decide))
  · have hlog₁ := Nat.log2_self_le hzero
    have hlog₂ := Nat.lt_log2_self (n := num / den)
    have hless : 52 < (num / den).log2 + 1 + j := by
      refine lt_of_two_pow_mul_lt (c := den) ?_
      calc 2 ^ 52 * den ≤ num * 2 ^ j := hleast
        _ < (num / den + 1) * den * 2 ^ j := by
            refine Nat.mul_lt_mul_of_pos_right ?_ (Nat.two_pow_pos j)
            rw [Nat.add_mul, Nat.one_mul]
            omega
        _ ≤ 2 ^ ((num / den).log2 + 1) * den * 2 ^ j :=
            Nat.mul_le_mul_right _ (Nat.mul_le_mul_right _ hlog₂)
        _ = 2 ^ ((num / den).log2 + 1 + j) * den := by ring
    have hmore : (num / den).log2 + j < 53 := by
      refine lt_of_two_pow_mul_lt (c := den) ?_
      calc 2 ^ ((num / den).log2 + j) * den = 2 ^ (num / den).log2 * den * 2 ^ j := by ring
        _ ≤ num / den * den * 2 ^ j := Nat.mul_le_mul_right _ (Nat.mul_le_mul_right _ hlog₁)
        _ ≤ num * 2 ^ j := Nat.mul_le_mul_right _ (Nat.div_mul_le_self num den)
        _ < 2 ^ 53 * den := hmost
    rw [RoundsUp, show 53 - (num / den).log2 = j + 1 by omega]

/-- The integer part of a rounded quotient is that of the quotient, or the next integer. -/
theorem truncate?_ofRatio_eq (negative : Bool) (hden : den ≠ 0) (hlarge : den < 2 ^ 53)
    (hsmall : num < 2 ^ 52 * den) : (ofRatio negative num den).truncate? =
      some (if negative then -((num / den + if RoundsUp num den then 1 else 0 : Nat) : Int)
        else (num / den + if RoundsUp num den then 1 else 0 : Nat)) := by
  have hpos := Nat.pos_of_ne_zero hden
  by_cases hnum : num = 0
  · have hless : ¬RoundsUp 0 den := by
      rw [RoundsUp, Nat.zero_mod, Nat.zero_div, Nat.sub_zero]
      have hmul := Nat.mul_lt_mul_of_pos_left (by decide : 1 < 2 ^ (53 - Nat.log2 0)) hpos
      omega
    rw [hnum, truncate?_ofRatio_zero, if_neg hless]
    simp
  · obtain ⟨j, hj, hleast, hmost, htruncate⟩ :=
      exists_truncate?_ofRatio negative hnum hden (by omega) hsmall
    have hleast' : num / den ≤ _ := div_le_rounded hpos j
    have hmost' : roundHalfEven (num * 2 ^ j) den / 2 ^ j ≤ num / den + 1 := by
      refine Nat.le_of_lt_succ (Nat.lt_of_mul_lt_mul_right (a := den) ?_)
      have hround : _ < num + den := rounded_mul_lt hpos j
      have hdiv := Nat.div_add_mod' num den
      have hmod := Nat.mod_lt num hpos
      rw [Nat.succ_mul, Nat.add_mul]
      omega
    have hnext : num / den + 1 ≤ _ ↔ RoundsUp num den :=
      (next_le_rounded_iff hpos hj).trans (gap_le_iff_roundsUp hpos hlarge hleast hmost)
    have hrounded : roundHalfEven (num * 2 ^ j) den / 2 ^ j =
        num / den + if RoundsUp num den then 1 else 0 := by
      split_ifs with hup
      · exact Nat.le_antisymm hmost' (hnext.2 hup)
      · have hbelow := mt hnext.1 hup
        omega
    rw [htruncate, hrounded]

end EntityQuery.Number.Binary64
