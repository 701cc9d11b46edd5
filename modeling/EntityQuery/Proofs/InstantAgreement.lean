import EntityQuery.Proofs.LiteralRoundTrip
import EntityQuery.Proofs.Rounding
import EntityQuery.Proofs.TickRoundTrip

/-!
# A moment in a URL and in a body

Version 2 writes a moment as the clock shows it into a URL, and as seconds in universal time into a
body. Both are read as the same moment exactly if the seconds that the body counts are those that
the clock shows (`Codec.moment_writesAlike_iff`): always without an offset, and never with an offset
of two seconds or more.
-/

namespace EntityQuery

open Calendar Number Text

/-- The moment in universal time, to the second. -/
def DateTime.universal? (t : DateTime) : Option DateTime :=
  DateTime.ofClockSeconds? (Int.fdiv (DateTime.microseconds t) 1000000)

section Seconds

variable {t u : DateTime}

theorem microseconds_bounds (h : DateTime.universal? t = some u) :
    u.clockSeconds * 1000000 ≤ DateTime.microseconds t ∧
      DateTime.microseconds t < u.clockSeconds * 1000000 + 1000000 := by
  have hseconds := clockSeconds_of_ofClockSeconds? h
  rw [Int.fdiv_eq_ediv_of_nonneg _ (by decide)] at hseconds
  omega

/-- Seconds counted in 64 bits are less than one off. -/
theorem epochSeconds_bounds (h : DateTime.universal? t = some u) {o : Int}
    (hoffset : t.offset = some o) :
    DateTime.microseconds t - 1000000 < DateTime.epochSeconds t * 1000000 ∧
      DateTime.epochSeconds t * 1000000 < DateTime.microseconds t + 1000000 := by
  have hsize := natAbs_clockSeconds_lt u
  have hbounds := microseconds_bounds h
  have hsmall : (DateTime.microseconds t).natAbs < 2 ^ 52 * 1000000 := by omega
  obtain ⟨n, htruncate, hleast, hmost⟩ := Binary64.truncate?_ofRatio
    (decide (DateTime.microseconds t < 0)) (by decide) (by decide) hsmall
  have hepoch : DateTime.epochSeconds t =
      if DateTime.microseconds t < 0 then -(n : Int) else n := by
    rw [DateTime.epochSeconds, hoffset]
    simp only [htruncate, Option.getD_some, decide_eq_true_eq]
  split_ifs at hepoch <;> omega

theorem universal_le_epochSeconds (h : DateTime.universal? t = some u) :
    u.clockSeconds ≤ DateTime.epochSeconds t ∧
      DateTime.epochSeconds t ≤ u.clockSeconds + 1 := by
  have hbounds := microseconds_bounds h
  cases hoffset : t.offset with
  | none =>
    obtain ⟨-, -, -, hfraction⟩ := t.time.valid
    rw [epochSeconds_of_offset_eq_none hoffset]
    rw [DateTime.microseconds, hoffset, Option.getD_none] at hbounds
    omega
  | some o =>
    have hepoch := epochSeconds_bounds h hoffset
    omega

theorem epochSeconds_ne_clockSeconds (h : DateTime.universal? t = some u) {o : Int}
    (hoffset : t.offset = some o) (hfar : 2000000 ≤ o.natAbs) :
    DateTime.epochSeconds t ≠ t.clockSeconds := by
  intro heq
  obtain ⟨-, -, -, hfraction⟩ := t.time.valid
  have hepoch := epochSeconds_bounds h hoffset
  rw [heq, DateTime.microseconds, hoffset, Option.getD_some] at hepoch
  omega

theorem epochSeconds_of_whole (h : DateTime.universal? t = some u) (hoffset : t.offset = some 0)
    (hfraction : t.time.microsecond = 0) : DateTime.epochSeconds t = t.clockSeconds := by
  have hepoch := epochSeconds_bounds h hoffset
  rw [DateTime.microseconds, hoffset, Option.getD_some, hfraction] at hepoch
  omega

end Seconds

namespace Codec

/-- A value is read from its literal as it is from its form in a body. -/
def WritesAlike (c : Codec) (v : Typed) (type : DataType) (declared : Option String) : Prop :=
  ∃ w, (c.encode v type declared >>= fun l => c.decode l type declared) = .ok w ∧
    (c.encodeForBody v type declared >>= c.decodeFromBody) = .ok w

variable {type : DataType} {declared : Option String} {s : String} {t u : DateTime}

theorem literal_moment (h : odata2.hint type declared = .dateTime)
    (hmoment : Typed.toMoment (.value (.str s)) = .ok t) (hyear : 1000 ≤ t.date.year) :
    (odata2.encode (.value (.str s)) type declared >>= fun l => odata2.decode l type declared) =
      .ok (.str (t.shortText " ")) := by
  have hnull : Value.str s ≠ .null := nofun
  rw [encode_of_ne_null (by decide) hnull, h]
  exact moment_roundTrip (by decide) h hmoment hyear

/-- The literal of a year of less than four digits is not read. -/
theorem year_of_literal_moment (h : odata2.hint type declared = .dateTime)
    (hmoment : Typed.toMoment (.value (.str s)) = .ok t) {w : Value}
    (hread : (odata2.encode (.value (.str s)) type declared >>=
      fun l => odata2.decode l type declared) = .ok w) : 1000 ≤ t.date.year := by
  have hnull : Value.str s ≠ .null := nofun
  by_contra hearly
  rw [encode_of_ne_null (by decide) hnull, h, Except.bind_of_ok _ (odataLiteral_moment hmoment),
    decode_tagged (by decide) (by decide), h] at hread
  simp only [ofLiteralText, Typed.toMoment_shortText_of_early "T" (by omega : t.date.year < 1000),
    cast] at hread
  cases hread

theorem body_moment (h : odata2.hint type declared = .dateTime)
    (hmoment : Typed.toMoment (.value (.str s)) = .ok t) (hu : DateTime.universal? t = some u) :
    (odata2.encodeForBody (.value (.str s)) type declared >>= odata2.decodeFromBody) =
      (momentAt (DateTime.epochSeconds t)).map fun t => .str (t.shortText " ") := by
  have hepoch := universal_le_epochSeconds hu
  have hsize := natAbs_clockSeconds_lt u
  rw [Except.bind_of_ok _ (encodeForBody_moment h hmoment), decodeFromBody_ticks (by omega)]

theorem clockSeconds_of_momentAt {n : Int} (h : momentAt n = .ok t) : t.clockSeconds = n := by
  unfold momentAt at h
  split at h
  · cases h
    exact clockSeconds_of_ofClockSeconds? ‹_›
  · split_ifs at h

theorem clockSeconds_of_shortText (ht : 1000 ≤ t.date.year) (hu : 1000 ≤ u.date.year)
    (h : t.shortText " " = u.shortText " ") : t.clockSeconds = u.clockSeconds := by
  have hread := Typed.toMoment_written ht (rfl : " ".toList = [' '])
  rw [h, Typed.toMoment_written hu (rfl : " ".toList = [' '])] at hread
  exact (congrArg DateTime.clockSeconds (Except.ok.inj hread)).symm

theorem writesAlike_iff (h : odata2.hint type declared = .dateTime)
    (hmoment : Typed.toMoment (.value (.str s)) = .ok t) (hu : DateTime.universal? t = some u)
    (hyear : 1000 ≤ u.date.year) : odata2.WritesAlike (.value (.str s)) type declared ↔
      DateTime.epochSeconds t = t.clockSeconds := by
  have hepoch := universal_le_epochSeconds hu
  constructor
  · rintro ⟨w, hliteral, hbody⟩
    have hlocal := year_of_literal_moment h hmoment hliteral
    rw [literal_moment h hmoment hlocal] at hliteral
    cases hliteral
    rw [body_moment h hmoment hu] at hbody
    cases hx : momentAt (DateTime.epochSeconds t) with
    | error e =>
      rw [hx] at hbody
      cases hbody
    | ok x =>
      rw [hx] at hbody
      have hseconds := clockSeconds_of_momentAt hx
      have hlater : u.date.year ≤ x.date.year := year_le_of_clockSeconds_le (by omega)
      rw [← hseconds]
      exact clockSeconds_of_shortText (by omega) hlocal (Value.str.inj (Except.ok.inj hbody))
  · intro hseconds
    have hlater : u.date.year ≤ t.date.year := year_le_of_clockSeconds_le (by omega)
    refine ⟨_, literal_moment h hmoment (by omega), ?_⟩
    rw [body_moment h hmoment hu, hseconds, momentAt_clockSeconds]
    rfl

/-- A moment of a year with four digits is read from its literal as it is from its form in a body
exactly if the seconds of the body are those that its clock shows. They are without an offset, and
with the offset zero at whole seconds; with an offset of two seconds or more they never are. -/
theorem moment_writesAlike_iff (h : odata2.hint type declared = .dateTime)
    (hmoment : Typed.toMoment (.value (.str s)) = .ok t) (hu : DateTime.universal? t = some u)
    (hyear : 1000 ≤ u.date.year) :
    (odata2.WritesAlike (.value (.str s)) type declared ↔
        DateTime.epochSeconds t = t.clockSeconds) ∧
      (t.offset = none → odata2.WritesAlike (.value (.str s)) type declared) ∧
      (t.offset = some 0 → t.time.microsecond = 0 →
        odata2.WritesAlike (.value (.str s)) type declared) ∧
      ∀ o, t.offset = some o → 2000000 ≤ o.natAbs →
        ¬odata2.WritesAlike (.value (.str s)) type declared := by
  have hiff := writesAlike_iff h hmoment hu hyear
  refine ⟨hiff, fun hoffset => hiff.2 (epochSeconds_of_offset_eq_none hoffset),
    fun hoffset hfraction => hiff.2 (epochSeconds_of_whole hu hoffset hfraction),
    fun o hoffset hfar halike => ?_⟩
  exact epochSeconds_ne_clockSeconds hu hoffset hfar (hiff.1 halike)

/-- Half a second before March 1960, which was a leap year. -/
def leapDay : DateTime where
  date := ⟨1960, 2, 29, by decide⟩
  time := ⟨23, 59, 59, 500000, by decide⟩
  offset := none

theorem moment_writesAlike_leapDay :
    odata2.hint .timestamp none = .dateTime ∧
      Typed.toMoment (.value (.str "1960-02-29T23:59:59.5Z")) = .ok leapDay ∧
      DateTime.universal? leapDay = some leapDay.written ∧ 1000 ≤ leapDay.written.date.year ∧
      odata2.WritesAlike (.value (.str "1960-02-29T23:59:59.5Z")) .timestamp none := by
  have hmoment : Typed.toMoment (.value (.str "1960-02-29T23:59:59.5Z")) = .ok leapDay := rfl
  have huniversal : DateTime.universal? leapDay = some leapDay.written := by decide +kernel
  exact ⟨by decide, hmoment, huniversal, by decide,
    (moment_writesAlike_iff (by decide) hmoment huniversal (by decide)).2.1 rfl⟩

/-- Ten in the morning, two hours ahead of universal time. -/
def mayMorning : DateTime where
  date := ⟨2024, 5, 1, by decide⟩
  time := ⟨10, 0, 0, 0, by decide⟩
  offset := some 7200000000

theorem moment_not_writesAlike_mayMorning :
    odata2.hint .timestamp none = .dateTime ∧
      Typed.toMoment (.value (.str "2024-05-01T10:00:00+02:00")) = .ok mayMorning ∧
      (DateTime.universal? mayMorning).map (·.date.year) = some 2024 ∧
      ¬odata2.WritesAlike (.value (.str "2024-05-01T10:00:00+02:00")) .timestamp none := by
  have hmoment : Typed.toMoment (.value (.str "2024-05-01T10:00:00+02:00")) = .ok mayMorning := by
    decide +kernel
  have huniversal : DateTime.universal? mayMorning =
      some ⟨⟨2024, 5, 1, by decide⟩, ⟨8, 0, 0, 0, by decide⟩, none⟩ := by decide +kernel
  refine ⟨by decide, hmoment, by rw [huniversal]; rfl, fun halike => ?_⟩
  exact epochSeconds_ne_clockSeconds huniversal rfl (by decide)
    ((writesAlike_iff (by decide) hmoment huniversal (by decide)).1 halike)

end Codec

end EntityQuery
