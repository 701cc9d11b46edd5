import EntityQuery.Proofs.DayCount
import EntityQuery.Proofs.MomentReading
import EntityQuery.Proofs.Outcome

/-!
# Moments survive a body

A body of version 2 holds a moment as its milliseconds since 1970 (`/Date(…)/`). Reading it gives
the text back that was written (`decodeFromBody_encodeForBody`), on both sides of 1970: three zeros
behind the numeral of the seconds multiply it by a thousand, whatever its sign, and the moment is
found again from its seconds.
-/

namespace EntityQuery

open Calendar Number Text

/-- What may follow the numeral between the brackets: an offset in four digits. -/
def IsOffset (cs : List Char) : Prop :=
  cs = [] ∨ ∃ sign a b c d, cs = [sign, a, b, c, d] ∧ (sign = '+' ∨ sign = '-') ∧
    [a, b, c, d].all isDecimal = true

/-- Where the brackets end once an offset is skipped. -/
theorem skip_eq_iff {rest : List Char} :
    (match rest with
      | '+' :: a :: b :: c :: d :: r | '-' :: a :: b :: c :: d :: r =>
        if [a, b, c, d].all isDecimal then r else rest
      | rest => rest) = [')', '/'] ↔ ∃ offset, IsOffset offset ∧ rest = offset ++ [')', '/'] := by
  constructor
  · intro h
    split at h
    · split_ifs at h with hdigits
      · exact ⟨_, .inr ⟨_, _, _, _, _, rfl, .inl rfl, hdigits⟩, by rw [h]; rfl⟩
      · cases h
    · split_ifs at h with hdigits
      · exact ⟨_, .inr ⟨_, _, _, _, _, rfl, .inr rfl, hdigits⟩, by rw [h]; rfl⟩
      · cases h
    · exact ⟨[], .inl rfl, h⟩
  · rintro ⟨offset, rfl | ⟨sign, a, b, c, d, rfl, rfl | rfl, hdigits⟩, rfl⟩
    · rfl
    · exact if_pos hdigits
    · exact if_pos hdigits

/-- The numeral between the brackets, whatever its sign. -/
theorem ticksNumeral?_append {lead ds offset : List Char} (hlead : lead = [] ∨ lead = ['-'])
    (hne : ds ≠ []) (h : ∀ c ∈ ds, isDecimal c = true) (hoffset : IsOffset offset) :
    ticksNumeral? ("/Date(".toList ++ (lead ++ (ds ++ (offset ++ [')', '/'])))) =
      some (lead ++ ds) := by
  have hspan : spanDecimals (ds ++ (offset ++ [')', '/'])) = (ds, offset ++ [')', '/']) := by
    refine spanDecimals_append h ?_
    rcases hoffset with rfl | ⟨_, _, _, _, _, rfl, rfl | rfl, -⟩ <;> rintro _ ⟨⟩ <;> decide
  have hskip := skip_eq_iff.2 ⟨offset, hoffset, rfl⟩
  generalize offset ++ [')', '/'] = rest at hspan hskip
  have hafter : after? "/Date(".toList ("/Date(".toList ++ (lead ++ (ds ++ rest))) =
      some (lead ++ (ds ++ rest)) := after?_eq_some.2 rfl
  rw [ticksNumeral?, hafter, Option.bind_eq_bind, Option.bind_some]
  rcases hlead with rfl | rfl
  · dsimp only
    split
    · rename_i r hr
      have hminus : '-' ∈ ds := by
        obtain ⟨d, ds, rfl⟩ := List.exists_cons_of_ne_nil hne
        cases hr
        exact List.mem_cons_self
      exact absurd (h _ hminus) (by decide)
    · rw [List.nil_append, hspan]
      exact if_pos ⟨hne, hskip⟩
  · simp only [List.singleton_append, hspan]
    exact if_pos ⟨hne, hskip⟩

/-- Three zeros behind the numeral of seconds make milliseconds of them. -/
theorem exists_ticksNumeral? {n : Int} (hsize : n.natAbs < 10 ^ 13) :
    ∃ cs, ticksNumeral? ("/Date(" ++ integerText n ++ "000)/").toList = some cs ∧
      integerOfChars? cs = some (n * 1000) := by
  have hlength : (Nat.toDigits 10 n.natAbs ++ ['0', '0', '0']).length ≤ maxDigits := by
    have hdigits := (Nat.length_toDigits_le_iff (by decide) (by decide)).2 hsize
    have hmost : maxDigits = 4300 := rfl
    simp only [List.length_append, List.length_cons, List.length_nil]
    omega
  have hspells : Spells (Nat.toDigits 10 n.natAbs ++ ['0', '0', '0']) (n.natAbs * 10 ^ 3) := by
    simpa using (spells_toDigits n.natAbs).append (spells_zeros 3)
  have hne : Nat.toDigits 10 n.natAbs ++ ['0', '0', '0'] ≠ [] :=
    List.append_ne_nil_of_left_ne_nil Nat.toDigits_ne_nil _
  by_cases hneg : n < 0
  · refine ⟨_, ?_, hspells.integerOfChars?_minus hne hlength |>.trans ?_⟩
    · rw [← List.singleton_append,
        ← ticksNumeral?_append (.inr rfl) hne hspells.isDecimal (.inl rfl)]
      simp [integerText, hneg, natText]
    · rw [show -((n.natAbs * 10 ^ 3 : Nat) : Int) = n * 1000 by omega]
  · refine ⟨_, ?_, hspells.integerOfChars?_eq hne hlength |>.trans ?_⟩
    · rw [← List.nil_append (Nat.toDigits 10 n.natAbs ++ ['0', '0', '0']),
        ← ticksNumeral?_append (.inl rfl) hne hspells.isDecimal (.inl rfl)]
      simp [integerText, hneg, natText]
    · rw [show ((n.natAbs * 10 ^ 3 : Nat) : Int) = n * 1000 by omega]

theorem natAbs_clockSeconds_lt (t : DateTime) : t.clockSeconds.natAbs < 10 ^ 12 := by
  obtain ⟨-, hyear, -⟩ := t.date.valid
  obtain ⟨hhour, hminute, hsecond, -⟩ := t.time.valid
  have hbefore : daysBeforeYear t.date.year ≤ 4000000 := by
    simp only [daysBeforeYear]
    omega
  have hlast := dayOfYear_lt t.date
  have hcases := daysInYear_cases t.date.year
  simp only [DateTime.clockSeconds, Date.ordinal, TimeOfDay.seconds, epochOrdinal]
  omega

/-- Ticks in whole seconds are read as the moment at these seconds. -/
theorem decodeTicks?_seconds {n : Int} (hsize : n.natAbs < 10 ^ 13) :
    decodeTicks? ("/Date(" ++ integerText n ++ "000)/") =
      (momentAt n).map fun t => some (t.shortText " ") := by
  obtain ⟨cs, hticks, hread⟩ := exists_ticksNumeral? hsize
  have htrim : trimChars ("/Date(" ++ integerText n ++ "000)/").toList =
      ("/Date(" ++ integerText n ++ "000)/").toList := by
    have hslash : isBlank '/' = false := by decide
    have hlast : ("/Date(" ++ integerText n ++ "000)/").toList.getLast? = some '/' := by
      rw [String.toList_append, List.getLast?_append]
      rfl
    refine trimChars_of_ends (by simpa using hslash) ?_
    rw [hlast]
    rintro _ ⟨⟩
    exact hslash
  have hseconds : Int.fdiv (n * 1000) 1000 = n := Int.mul_fdiv_cancel _ (by decide)
  simp only [decodeTicks?, htrim, hticks, hread, hseconds]
  cases momentAt n <;> rfl

theorem epochSeconds_of_offset_eq_none {t : DateTime} (h : t.offset = none) :
    DateTime.epochSeconds t = t.clockSeconds := by
  rw [DateTime.epochSeconds, h]

namespace Codec

variable {type : DataType} {declared : Option String}

theorem encodeForBody_moment (h : odata2.hint type declared = .dateTime) {s : String}
    {t : DateTime} (hmoment : Typed.toMoment (.value (.str s)) = .ok t) :
    odata2.encodeForBody (.value (.str s)) type declared =
      .ok (.str ("/Date(" ++ integerText (DateTime.epochSeconds t) ++ "000)/")) := by
  have hticks : encodeTicks (.value (.str s)) =
      .ok ("/Date(" ++ integerText (DateTime.epochSeconds t) ++ "000)/") := by
    rw [encodeTicks, Except.bind_of_ok _ hmoment]
    rfl
  simp only [encodeForBody, h, hticks]
  rfl

theorem decodeFromBody_ticks {n : Int} (hsize : n.natAbs < 10 ^ 13) :
    odata2.decodeFromBody (.str ("/Date(" ++ integerText n ++ "000)/")) =
      (momentAt n).map fun t => .str (t.shortText " ") := by
  simp only [decodeFromBody, decodeTicks?_seconds hsize]
  cases momentAt n <;> rfl

end Codec

theorem momentAt_clockSeconds (t : DateTime) : momentAt t.clockSeconds = .ok t.written := by
  have hfound : DateTime.ofClockSeconds? t.clockSeconds = some t.written :=
    ofClockSeconds?_clockSeconds (t := t.written) rfl rfl
  rw [momentAt, hfound]

/-- A moment of a body is read as it was written. -/
theorem decodeFromBody_encodeForBody {type : DataType} {declared : Option String}
    (h : Codec.odata2.hint type declared = .dateTime) {s : String} (hs : IsMomentText s) :
    (Codec.odata2.encodeForBody (.value (.str s)) type declared >>= Codec.odata2.decodeFromBody) =
      .ok (.str s) := by
  obtain ⟨t, hyear, hfraction, hoffset, rfl⟩ := hs
  have hmoment : Typed.toMoment (.value (.str (t.shortText " "))) = .ok t :=
    Typed.toMoment_shortText hyear hfraction hoffset rfl
  have hsize := natAbs_clockSeconds_lt t
  show Codec.odata2.encodeForBody (.value (.str (t.shortText " "))) type declared >>= _ = _
  rw [Except.bind_of_ok _ (Codec.encodeForBody_moment h hmoment),
    epochSeconds_of_offset_eq_none hoffset, Codec.decodeFromBody_ticks (by omega),
    momentAt_clockSeconds]
  rfl

/-- The last day of February 1600, a leap year, long before 1970. -/
theorem decodeFromBody_encodeForBody_leapDay :
    Codec.odata2.hint .timestamp none = .dateTime ∧ IsMomentText "1600-02-29 23:59:59" ∧
      (Codec.odata2.encodeForBody (.value (.str "1600-02-29 23:59:59")) .timestamp none >>=
        Codec.odata2.decodeFromBody) = .ok (.str "1600-02-29 23:59:59") := by
  have htext : IsMomentText "1600-02-29 23:59:59" :=
    ⟨⟨⟨1600, 2, 29, by decide⟩, ⟨23, 59, 59, 0, by decide⟩, none⟩, by decide, rfl, rfl, by decide⟩
  exact ⟨by decide, htext, decodeFromBody_encodeForBody (by decide) htext⟩

end EntityQuery
