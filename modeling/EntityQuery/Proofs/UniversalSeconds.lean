import EntityQuery.Proofs.Rounding
import EntityQuery.Proofs.TickRoundTrip

/-!
# The seconds of an instant

An instant can be written with its distance from universal time, or as universal time without any.
The two texts do not always have the same ticks: with a distance the microseconds since 1970 are
divided in 64 bits and cut toward zero, without one the fraction is dropped from the clock
(`encodeTicks_eq_iff`). They differ before 1970 wherever there is a fraction, unless rounding makes
up for it, and many years after 1970 where rounding reaches the next second.
-/

namespace EntityQuery

open Calendar Number Text

/-- Microseconds are cut to the same seconds by either way: there is no fraction, or rounding in 64
bits reaches the next second before 1970 and does not reach it later. -/
def CutsAlike (n : Int) : Prop :=
  n % 1000000 = 0 ∨ (0 ≤ n ↔ ¬Binary64.RoundsUp n.natAbs 1000000)

instance (n : Int) : Decidable (CutsAlike n) := by unfold CutsAlike; infer_instance

section Seconds

variable {t u : DateTime}

theorem log2_lt_of_lt {n k : Nat} (hk : 0 < k) (h : n < 2 ^ k) : n.log2 < k := by
  by_cases hzero : n = 0
  · rwa [hzero, Nat.log2_zero]
  · exact (Nat.log2_lt hzero).2 h

theorem fraction_ne_zero_of_roundsUp {n : Nat} (h : Binary64.RoundsUp n 1000000)
    (hsmall : n < 2 ^ 52 * 1000000) : n % 1000000 ≠ 0 := by
  intro hzero
  have hlog : (n / 1000000).log2 < 53 := log2_lt_of_lt (by decide) (by omega)
  rw [Binary64.RoundsUp, hzero] at h
  have hpow := Nat.pow_le_pow_right (by decide : 0 < 2) (by omega : 1 ≤ 53 - (n / 1000000).log2)
  omega

/-- Until rounding to 64 bits has steps of two microseconds no fraction reaches the next second. -/
theorem not_roundsUp {n : Nat} (h : n < 2 ^ 34 * 1000000) : ¬Binary64.RoundsUp n 1000000 := by
  intro hup
  have hlog : (n / 1000000).log2 < 34 := log2_lt_of_lt (by decide) (by omega)
  have hmod := Nat.mod_lt n (by decide : 0 < 1000000)
  have hpow := Nat.pow_le_pow_right (by decide : 0 < 2) (by omega : 20 ≤ 53 - (n / 1000000).log2)
  have hmul := Nat.mul_le_mul (by omega : 1 ≤ 1000000 - n % 1000000) hpow
  rw [Binary64.RoundsUp] at hup
  omega

theorem microseconds_of_offset_eq_none (h : u.offset = none) :
    DateTime.microseconds u = u.clockSeconds * 1000000 + u.time.microsecond := by
  rw [DateTime.microseconds, h, Option.getD_none, Int.sub_zero]

/-- With an offset the seconds are those of the rounded quotient, with the sign of the distance. -/
theorem epochSeconds_of_offset (hoffset : t.offset.isSome)
    (hsmall : (DateTime.microseconds t).natAbs < 2 ^ 52 * 1000000) :
    let n := (DateTime.microseconds t).natAbs
    let seconds := n / 1000000 + if Binary64.RoundsUp n 1000000 then 1 else 0
    DateTime.epochSeconds t =
      if DateTime.microseconds t < 0 then -(seconds : Int) else seconds := by
  obtain ⟨o, ho⟩ := Option.isSome_iff_exists.1 hoffset
  rw [DateTime.epochSeconds, ho]
  simp only [Binary64.truncate?_ofRatio_eq _ (by decide) (by decide) hsmall, Option.getD_some,
    decide_eq_true_eq]

/-- The same instant is cut to the same seconds with and without an offset exactly as
`CutsAlike` says. -/
theorem epochSeconds_eq_iff (hoffset : t.offset.isSome) (hnone : u.offset = none)
    (hsame : DateTime.microseconds u = DateTime.microseconds t) :
    DateTime.epochSeconds t = DateTime.epochSeconds u ↔ CutsAlike (DateTime.microseconds t) := by
  obtain ⟨-, -, -, hfraction⟩ := u.time.valid
  have hsize := natAbs_clockSeconds_lt u
  have hu := microseconds_of_offset_eq_none hnone
  rw [hsame] at hu
  have hsmall : (DateTime.microseconds t).natAbs < 2 ^ 52 * 1000000 := by omega
  have hwhole := fun h => fraction_ne_zero_of_roundsUp h hsmall
  rw [epochSeconds_of_offset hoffset hsmall, epochSeconds_of_offset_eq_none hnone, CutsAlike]
  by_cases hup : Binary64.RoundsUp (DateTime.microseconds t).natAbs 1000000
  · have hne := hwhole hup
    simp only [hup, if_true, not_true_eq_false, iff_false]
    split_ifs <;> omega
  · simp only [hup, if_false, not_false_eq_true, iff_true]
    split_ifs <;> omega

end Seconds

theorem encodeTicks_of_toMoment {v : Typed} {t : DateTime} (h : v.toMoment = .ok t) :
    encodeTicks v = .ok ("/Date(" ++ integerText (DateTime.epochSeconds t) ++ "000)/") := by
  rw [encodeTicks, Except.bind_of_ok _ h]
  rfl

theorem encodeTicks_eq_iff {v w : Typed} {t u : DateTime} (hv : v.toMoment = .ok t)
    (hw : w.toMoment = .ok u) :
    encodeTicks v = encodeTicks w ↔ DateTime.epochSeconds t = DateTime.epochSeconds u := by
  rw [encodeTicks_of_toMoment hv, encodeTicks_of_toMoment hw, Except.ok.injEq,
    String.append_left_inj, String.append_right_inj]
  exact ⟨fun h => integerText_injective h, fun h => by rw [h]⟩

variable {d n : String} {t u : DateTime}

/-- A text with an offset and the text of the same instant in universal time without one have the
same ticks exactly as `CutsAlike` says of the microseconds between the start of 1970 and the
instant: always for whole seconds and for 544 years from 1970 on, and never for a fraction in the
544 years before. -/
theorem encodeTicks_universal_iff (hd : Typed.toMoment (.value (.str d)) = .ok t)
    (hoffset : t.offset.isSome) (hn : Typed.toMoment (.value (.str n)) = .ok u)
    (hnone : u.offset = none) (hsame : DateTime.microseconds u = DateTime.microseconds t) :
    (encodeTicks (.value (.str d)) = encodeTicks (.value (.str n)) ↔
        CutsAlike (DateTime.microseconds t)) ∧
      (DateTime.microseconds t % 1000000 = 0 →
        encodeTicks (.value (.str d)) = encodeTicks (.value (.str n))) ∧
      (0 ≤ DateTime.microseconds t → DateTime.microseconds t < 2 ^ 34 * 1000000 →
        encodeTicks (.value (.str d)) = encodeTicks (.value (.str n))) ∧
      (DateTime.microseconds t < 0 → -(2 ^ 34 * 1000000) < DateTime.microseconds t →
        DateTime.microseconds t % 1000000 ≠ 0 →
          encodeTicks (.value (.str d)) ≠ encodeTicks (.value (.str n))) := by
  have hiff := (encodeTicks_eq_iff hd hn).trans (epochSeconds_eq_iff hoffset hnone hsame)
  refine ⟨hiff, fun hwhole => hiff.2 (.inl hwhole), fun hpos hless => hiff.2 (.inr ?_), ?_⟩
  · exact iff_of_true hpos (not_roundsUp (by omega))
  · intro hneg hless hfraction heq
    obtain hwhole | hcut := hiff.1 heq
    · exact hfraction hwhole
    · exact absurd (hcut.2 (not_roundsUp (by omega))) (by omega)

/-- Half an hour past one of a leap day, two hours ahead of universal time. -/
def leapNight : DateTime where
  date := ⟨2024, 2, 29, by decide⟩
  time := ⟨1, 30, 0, 500000, by decide⟩
  offset := some 7200000000

/-- The same instant in universal time, still on the day before. -/
def leapEve : DateTime where
  date := ⟨2024, 2, 28, by decide⟩
  time := ⟨23, 30, 0, 500000, by decide⟩
  offset := none

theorem encodeTicks_universal_leapNight :
    Typed.toMoment (.value (.str "2024-02-29T01:30:00.5+02:00")) = .ok leapNight ∧
      leapNight.offset.isSome ∧
      Typed.toMoment (.value (.str "2024-02-28T23:30:00.5")) = .ok leapEve ∧
      leapEve.offset = none ∧ DateTime.microseconds leapEve = DateTime.microseconds leapNight ∧
      encodeTicks (.value (.str "2024-02-29T01:30:00.5+02:00")) =
        encodeTicks (.value (.str "2024-02-28T23:30:00.5")) := by
  have hnight : Typed.toMoment (.value (.str "2024-02-29T01:30:00.5+02:00")) = .ok leapNight := by
    decide +kernel
  have heve : Typed.toMoment (.value (.str "2024-02-28T23:30:00.5")) = .ok leapEve := by
    decide +kernel
  have hsame : DateTime.microseconds leapEve = DateTime.microseconds leapNight := by
    decide +kernel
  exact ⟨hnight, rfl, heve, rfl, hsame, (encodeTicks_universal_iff hnight rfl heve rfl hsame).2.2.1
    (by decide +kernel) (by decide +kernel)⟩

/-- Half a second before 1970 the offset zero makes a difference to the ticks. -/
theorem encodeTicks_not_universal_lastHalf :
    (∃ t u, Typed.toMoment (.value (.str "1969-12-31T23:59:59.5+00:00")) = .ok t ∧
        Typed.toMoment (.value (.str "1969-12-31T23:59:59.5")) = .ok u ∧
        t.offset = some 0 ∧ u.offset = none ∧
        DateTime.microseconds t = -500000 ∧ DateTime.microseconds u = -500000) ∧
      encodeTicks (.value (.str "1969-12-31T23:59:59.5+00:00")) = .ok "/Date(0000)/" ∧
      encodeTicks (.value (.str "1969-12-31T23:59:59.5")) = .ok "/Date(-1000)/" := by
  have hd : Typed.toMoment (.value (.str "1969-12-31T23:59:59.5+00:00")) =
      .ok ⟨⟨1969, 12, 31, by decide⟩, ⟨23, 59, 59, 500000, by decide⟩, some 0⟩ := by
    decide +kernel
  have hn : Typed.toMoment (.value (.str "1969-12-31T23:59:59.5")) =
      .ok ⟨⟨1969, 12, 31, by decide⟩, ⟨23, 59, 59, 500000, by decide⟩, none⟩ := by
    decide +kernel
  exact ⟨⟨_, _, hd, hn, rfl, rfl, by decide +kernel, by decide +kernel⟩, by decide +kernel,
    by decide +kernel⟩

end EntityQuery
