import EntityQuery.Proofs.IntegerReading
import EntityQuery.Proofs.UnreadableText

/-!
# Literals of times of day

A time of day is written as a duration or with colons, and either is read again
(`decode_duration_ok`, `exists_decode_of_colon`): what is read as hours, minutes and seconds has no
more digits than can be read. A text that begins as a duration does is written as it is, so it may
hold a numeral that is too long (`decode_durationText_iff`).
-/

namespace EntityQuery

open Number Text

theorem mem_isLongDuration {cs : List Char} (h : IsLongDuration cs) {c : Char} (hc : c ∈ cs) :
    isDecimal c = true ∨ c ∈ ['P', 'T', 'H', 'M', 'S', '.'] := by
  obtain ⟨h, m, s, rfl, -, hh, hm, hs, -⟩ := h
  simp only [List.mem_cons, List.mem_append] at hc
  rcases hc with rfl | rfl | hc | hc | hc
  · exact .inr (by decide)
  · exact .inr (by decide)
  · exact (mem_amount hh hc).imp_right fun hc => by simp [hc]
  · exact (mem_amount hm hc).imp_right fun hc => by simp [hc]
  · exact (mem_seconds hs hc).imp_right fun hc => by rcases hc with rfl | rfl <;> decide

theorem not_isLongDuration_of_mem {cs : List Char} {c : Char} (hc : c ∈ cs)
    (hmark : c = ':' ∨ c = '-') : ¬IsLongDuration cs := by
  intro h
  rcases hmark with rfl | rfl <;>
    exact absurd (mem_isLongDuration h hc) (by decide)

theorem length_le_of_toClock {v : Value} {t : Typed.Clock}
    (h : Typed.toClock (.value v) = .ok t) :
    ∀ n : Int, n = t.hour ∨ n = t.minute ∨ n ∈ t.second →
      (Nat.toDigits 10 n.natAbs).length ≤ maxDigits := by
  obtain ⟨s, -, hclock⟩ := toClock_eq_ok_iff.1 h
  generalize trim s = text at hclock
  cases hclock with
  | minutes _ hh hm =>
    rintro n (rfl | rfl | hn)
    · exact length_le_of_integerOfText? hh
    · exact length_le_of_integerOfText? hm
    · cases hn
  | seconds _ hh hm _ hx =>
    rintro n (rfl | rfl | hn)
    · exact length_le_of_integerOfText? hh
    · exact length_le_of_integerOfText? hm
    · cases hn
      exact length_le_of_truncate? hx

theorem isDigits_paddedText {n : Int} (hn : 0 ≤ n) : IsDigits (paddedText 2 n).toList := by
  obtain ⟨k, rfl⟩ := Int.eq_ofNat_of_zero_le hn
  refine ⟨?_, (spells_paddedText 2 k).isDecimal⟩
  simp [paddedText, Nat.toDigits_ne_nil]

theorem length_paddedText_le {n : Int} (hn : 0 ≤ n)
    (h : (Nat.toDigits 10 n.natAbs).length ≤ maxDigits) :
    (paddedText 2 n).toList.length ≤ maxDigits := by
  have htwo : 2 ≤ maxDigits := by decide
  simp only [paddedText, Int.not_lt.2 hn, if_false, String.toList_ofList, List.nil_append,
    List.length_append, List.length_replicate, List.length_nil]
  omega

theorem minus_mem_paddedText {n : Int} (hn : n < 0) : '-' ∈ (paddedText 2 n).toList := by
  simp [paddedText, hn]

/-- The seconds of a duration, if it has any. -/
def secondText (second : Option Int) : List Char :=
  match second with
  | some s => (paddedText 2 s).toList ++ ['S']
  | none => []

theorem toList_duration (t : Typed.Clock) : t.duration.toList =
    'P' :: 'T' :: ((paddedText 2 t.hour).toList ++ ['H'] ++
      ((paddedText 2 t.minute).toList ++ ['M'] ++ secondText t.second)) := by
  cases hsecond : t.second <;> simp [Typed.Clock.duration, secondText, hsecond]

/-- An amount is as long as its numeral. -/
theorem spanDecimals_paddedText {n : Int} (hn : 0 ≤ n) {unit : Char}
    (hunit : isDecimal unit = false) :
    (spanDecimals ((paddedText 2 n).toList ++ [unit])).1 = (paddedText 2 n).toList := by
  rw [spanDecimals_append (isDigits_paddedText hn).2 (by simpa using hunit)]

/-- A duration that is made from a time of day is read. -/
theorem not_isLongDuration_duration {t : Typed.Clock}
    (h : ∀ n : Int, n = t.hour ∨ n = t.minute ∨ n ∈ t.second →
      (Nat.toDigits 10 n.natAbs).length ≤ maxDigits) : ¬IsLongDuration t.duration.toList := by
  have hsigned {n : Int} (hn : '-' ∈ (paddedText 2 n).toList → '-' ∈ t.duration.toList)
      (hneg : n < 0) : ¬IsLongDuration t.duration.toList :=
    not_isLongDuration_of_mem (hn (minus_mem_paddedText hneg)) (.inr rfl)
  by_cases hhour : t.hour < 0
  · exact hsigned (fun hmem => by simp [toList_duration, hmem]) hhour
  by_cases hminute : t.minute < 0
  · exact hsigned (fun hmem => by simp [toList_duration, hmem]) hminute
  by_cases hsecond : ∃ s ∈ t.second, s < 0
  · obtain ⟨s, hs, hneg⟩ := hsecond
    refine hsigned (fun hmem => ?_) hneg
    simp [toList_duration, secondText, Option.mem_def.1 hs, hmem]
  rw [Int.not_lt] at hhour hminute
  have hnonneg {s : Int} (hs : s ∈ t.second) : 0 ≤ s :=
    Int.not_lt.1 fun hneg => hsecond ⟨s, hs, hneg⟩
  have hamount {n : Int} (hn : 0 ≤ n) (unit : Char) :
      IsAmount unit ((paddedText 2 n).toList ++ [unit]) :=
    .inr ⟨_, isDigits_paddedText hn, rfl⟩
  have hseconds : IsSeconds (secondText t.second) := by
    cases ht : t.second with
    | none => exact .inl (.inl rfl)
    | some s => exact .inl (hamount (hnonneg ht) 'S')
  rw [toList_duration, isLongDuration_iff (by simp) (hamount hhour 'H') (hamount hminute 'M')
    hseconds]
  rintro ⟨q, hq, hlong⟩
  simp only [List.mem_cons, List.not_mem_nil, or_false] at hq
  rcases hq with rfl | rfl | rfl
  · rw [spanDecimals_paddedText hhour (by decide)] at hlong
    exact absurd (length_paddedText_le hhour (h _ (.inl rfl))) (Nat.not_le.2 hlong)
  · rw [spanDecimals_paddedText hminute (by decide)] at hlong
    exact absurd (length_paddedText_le hminute (h _ (.inr (.inl rfl)))) (Nat.not_le.2 hlong)
  · cases ht : t.second with
    | none =>
      rw [ht] at hlong
      exact absurd hlong (by decide)
    | some s =>
      rw [ht, secondText, spanDecimals_paddedText (hnonneg ht) (by decide)] at hlong
      exact absurd (length_paddedText_le (hnonneg ht) (h s (.inr (.inr ht)))) (Nat.not_le.2 hlong)

theorem encodeTime_cases {v : Value} {literal : String}
    (h : encodeTime (.value v) = .ok literal) :
    (v = .str literal ∧ startsWith "PT" literal = true) ∨
      ((∀ s, v = .str s → startsWith "PT" s ≠ true) ∧
        ∃ t, Typed.toClock (.value v) = .ok t ∧ literal = t.duration) := by
  have hclock {v : Typed}
      (h : (do pure (← v.toClock).duration : Except Error String) = .ok literal) :
      ∃ t, v.toClock = .ok t ∧ literal = t.duration := by
    obtain ⟨t, ht, h⟩ := Except.bind_eq_ok_iff.1 h
    exact ⟨t, ht, (Except.ok.inj h).symm⟩
  cases v with
  | str s =>
    unfold encodeTime at h
    dsimp only at h
    split_ifs at h with hlead
    · cases h
      exact .inl ⟨rfl, hlead⟩
    · refine .inr ⟨?_, hclock h⟩
      rintro _ ⟨⟩
      exact hlead
  | null | bool _ | int _ | float _ | list _ | map _ => exact .inr ⟨nofun, hclock h⟩

namespace Codec

variable {c : Codec} {type : DataType} {declared : Option String}

theorem exists_decode_of_colon (hc : c ≠ .plain) (hhint : c.hint type declared = .time)
    {s : String} (hs : isTokenText s = true) (hcolon : ':' ∈ s.toList) :
    ∃ w, c.decode s type declared = .ok w := by
  have htrim := trimChars_of_isTokenText hs
  by_cases hclock : c = .odata4 ∧ c.hint type declared = .time ∧ isClockText s.toList = true
  · rw [decode_eq hc, htrim, if_pos hclock]
    exact ⟨_, rfl⟩
  · have hnull : s ≠ "null" := by
      rintro rfl
      exact absurd hcolon (by decide)
    obtain ⟨r, hr⟩ := (decodeTime?_ok_iff s).2
      (htrim.symm ▸ not_isLongDuration_of_mem hcolon (.inl rfl))
    rw [decode_token hc hs hnull hclock, hhint, ofLiteralText, hr]
    exact ⟨_, rfl⟩

/-- A text that begins as a duration does is read unless a numeral in it is too long. -/
theorem decode_durationText_iff (hc : c ≠ .plain) (hc4 : c ≠ .odata4)
    (hhint : c.hint type declared = .time) {s : String} (hlead : startsWith "PT" s = true) :
    (∃ w, c.decode s type declared = .ok w) ↔ ¬IsLongDuration (trimChars s.toList) := by
  obtain ⟨r, hr⟩ := Option.isSome_iff_exists.1 hlead
  have hs : s.toList = 'P' :: 'T' :: r := after?_eq_some.1 hr
  have hnull : s ≠ "null" := by
    rintro rfl
    exact absurd hlead (by decide)
  obtain ⟨r', hr'⟩ := Text.exists_trimChars_eq_cons (by decide) hs
  have htagged : taggedText? (trimChars s.toList) = none := by
    rw [hr']
    simp [taggedText?, literalTags, after?]
  have henclosed : enclosedText? (trimChars s.toList) = none := by
    rw [hr']
    rfl
  have hread := decodeTime?_ok_iff (String.ofList (trimChars s.toList))
  rw [String.toList_ofList, trimChars_trimChars] at hread
  rw [decode_eq hc, if_neg fun h => hc4 h.1, if_neg hnull, htagged, henclosed, hhint, ← hread]
  dsimp only [ofLiteralText]
  cases decodeTime? (String.ofList (trimChars s.toList)) <;>
    simp [bind, Except.bind, pure, Except.pure]

theorem decode_duration_ok (hc : c ≠ .plain) (hhint : c.hint type declared = .time) {v : Value}
    {t : Typed.Clock} (ht : Typed.toClock (.value v) = .ok t) :
    ∃ w, c.decode t.duration type declared = .ok w := by
  have htoken := isTokenText_duration t
  have hmem : 'P' ∈ t.duration.toList := by
    rw [toList_duration]
    exact List.mem_cons_self
  have hclock := isClockText_of_mem hmem (by decide) (by decide)
  have hnull : t.duration ≠ "null" := by
    intro hnull
    rw [hnull] at hmem
    exact absurd hmem (by decide)
  obtain ⟨r, hr⟩ := (decodeTime?_ok_iff t.duration).2 (by
    rw [trimChars_of_isTokenText htoken]
    exact not_isLongDuration_duration (length_le_of_toClock ht))
  rw [decode_token hc htoken hnull (by simp [hclock]), hhint, ofLiteralText, hr]
  exact ⟨_, rfl⟩

end Codec

end EntityQuery
