import EntityQuery.Proofs.ClockReading
import EntityQuery.Proofs.TickRoundTrip

/-!
# Texts in a body

A text is written into a body as it is and read by its shape: what is written like a moment in
ticks or like a duration is taken for one, whatever type it was written under. Exactly the other
texts are read back as they were (`Codec.text_roundTrip_iff`). The two shapes are given here as
grammars, apart from the readers of the model.
-/

namespace EntityQuery

open Calendar Number Text

/-- Digits, at least one. -/
def IsDigits (cs : List Char) : Prop := cs ≠ [] ∧ ∀ c ∈ cs, isDecimal c = true

/-- `/Date(…)/` around a numeral, perhaps with a minus sign before it and an offset behind it. -/
def IsTicks (cs : List Char) : Prop :=
  ∃ lead ds offset, cs = "/Date(".toList ++ (lead ++ (ds ++ (offset ++ [')', '/']))) ∧
    (lead = [] ∨ lead = ['-']) ∧ IsDigits ds ∧ IsOffset offset

/-- A numeral with its unit, or nothing. -/
def IsAmount (unit : Char) (cs : List Char) : Prop :=
  cs = [] ∨ ∃ ds, IsDigits ds ∧ cs = ds ++ [unit]

/-- A numeral of seconds, perhaps with a fraction, or nothing. -/
def IsSeconds (cs : List Char) : Prop :=
  IsAmount 'S' cs ∨ ∃ ds fs, IsDigits ds ∧ IsDigits fs ∧ cs = ds ++ '.' :: (fs ++ ['S'])

/-- `PT` with hours, minutes and seconds in this order, of which two may be missing. -/
def IsDuration (cs : List Char) : Prop :=
  ∃ h m s, cs = 'P' :: 'T' :: (h ++ (m ++ s)) ∧ h ++ (m ++ s) ≠ [] ∧
    IsAmount 'H' h ∧ IsAmount 'M' m ∧ IsSeconds s

theorem isDigits_spanDecimals {cs : List Char} (hne : (spanDecimals cs).1 ≠ []) :
    IsDigits (spanDecimals cs).1 := ⟨hne, isDecimal_of_mem_spanDecimals⟩

theorem isTicks_of_ticksNumeral? {cs ds : List Char} (h : ticksNumeral? cs = some ds) :
    IsTicks cs := by
  unfold ticksNumeral? at h
  obtain ⟨r, hr, h⟩ := Option.bind_eq_some_iff.1 h
  rw [after?_eq_some.1 hr]
  dsimp only at h
  split at h <;>
    obtain ⟨⟨hne, hrest⟩, -⟩ := Option.ite_none_right_eq_some.1 h <;>
    obtain ⟨offset, hoffset, hrest⟩ := skip_eq_iff.1 hrest
  · refine ⟨['-'], _, offset, ?_, .inr rfl, isDigits_spanDecimals hne, hoffset⟩
    rw [← hrest, append_spanDecimals]
    rfl
  · refine ⟨[], _, offset, ?_, .inl rfl, isDigits_spanDecimals hne, hoffset⟩
    rw [← hrest, append_spanDecimals]
    rfl

theorem ticksNumeral?_isSome_iff {cs : List Char} : (ticksNumeral? cs).isSome ↔ IsTicks cs := by
  constructor
  · intro h
    obtain ⟨ds, hds⟩ := Option.isSome_iff_exists.1 h
    exact isTicks_of_ticksNumeral? hds
  · rintro ⟨lead, ds, offset, rfl, hlead, ⟨hne, hds⟩, hoffset⟩
    rw [ticksNumeral?_append hlead hne hds hoffset]
    rfl

/-- A numeral with its unit is read, or nothing. -/
theorem quantity?_cases (unit : Char) (cs : List Char) :
    (∃ ds r, quantity? unit cs = (some ds, r) ∧ IsDigits ds ∧ cs = ds ++ unit :: r) ∨
      quantity? unit cs = (none, cs) := by
  have happend := append_spanDecimals cs
  rw [quantity?]
  dsimp only
  split
  · rename_i d ds c r hds hrest
    split_ifs with hunit
    · have hdigits : IsDigits (spanDecimals cs).1 := isDigits_spanDecimals (by simp [hds])
      rw [hrest, hunit] at happend
      exact .inl ⟨_, _, rfl, hdigits, happend.symm⟩
    · exact .inr rfl
  · exact .inr rfl

theorem exists_amount (unit : Char) (cs : List Char) :
    ∃ q, IsAmount unit q ∧ cs = q ++ (quantity? unit cs).2 := by
  obtain ⟨ds, r, hread, hds, hcs⟩ | hread := quantity?_cases unit cs
  · exact ⟨_, .inr ⟨ds, hds, rfl⟩, by simp [hread, ← hcs]⟩
  · exact ⟨[], .inl rfl, by rw [hread]; rfl⟩

theorem exists_seconds (cs : List Char) : ∃ q, IsSeconds q ∧ cs = q ++ (seconds? cs).2 := by
  have hnone : ∃ q, IsSeconds q ∧ cs = q ++ cs := ⟨[], .inl (.inl rfl), rfl⟩
  rw [seconds?]
  obtain ⟨ds, r, hread, hds, hcs⟩ | hread := quantity?_cases 'S' cs
  · rw [hread]
    exact ⟨_, .inl (.inr ⟨ds, hds, rfl⟩), by simp [← hcs]⟩
  · rw [hread]
    have happend := append_spanDecimals cs
    dsimp only
    split
    · rename_i d ds r hds hrest
      obtain ⟨fs, r', hread, hfs, hr⟩ | hread := quantity?_cases 'S' r
      · have hdigits : IsDigits (spanDecimals cs).1 := isDigits_spanDecimals (by simp [hds])
        rw [hread]
        refine ⟨_, .inr ⟨_, fs, hdigits, hfs, rfl⟩, ?_⟩
        rw [List.append_assoc, List.cons_append, List.append_assoc, List.singleton_append, ← hr,
          ← hrest, happend]
      · rw [hread]
        exact hnone
    · exact hnone

theorem isDuration_of_durationParts? {cs : List Char}
    {parts : Option (List Char) × Option (List Char) × Option (List Char)}
    (h : durationParts? cs = some parts) : IsDuration cs := by
  unfold durationParts? at h
  split at h
  · rename_i r
    obtain ⟨hours, hhours, happend⟩ := exists_amount 'H' r
    obtain ⟨minutes, hminutes, happend'⟩ := exists_amount 'M' (quantity? 'H' r).2
    obtain ⟨seconds, hseconds, happend''⟩ := exists_seconds (quantity? 'M' (quantity? 'H' r).2).2
    dsimp only at h
    split_ifs at h with hshape
    obtain ⟨hrest, hne⟩ := hshape
    rw [hrest, List.append_nil] at happend''
    rw [happend''] at happend'
    rw [happend'] at happend
    refine ⟨hours, minutes, seconds, by rw [← happend], ?_, hhours, hminutes, hseconds⟩
    rintro hnil
    rw [hnil] at happend
    exact hne (by rw [happend])
  · cases h

theorem quantity?_of_not_mem {unit : Char} {cs : List Char} (h : unit ∉ cs) :
    quantity? unit cs = (none, cs) := by
  obtain ⟨ds, r, -, -, rfl⟩ | hread := quantity?_cases unit cs
  · exact absurd (List.mem_append_right ds List.mem_cons_self) h
  · exact hread

/-- The numeral before a unit, if there is one. -/
def amount? (q : List Char) : Option (List Char) :=
  if q = [] then none else some (spanDecimals q).1

theorem amount?_append {ds rest : List Char} {c : Char} (hds : IsDigits ds)
    (hc : isDecimal c = false) : amount? (ds ++ c :: rest) = some ds := by
  have hspan : spanDecimals (ds ++ c :: rest) = (ds, c :: rest) :=
    spanDecimals_append hds.2 (by simpa using hc)
  rw [amount?, if_neg (by simp), hspan]

theorem quantity?_amount {unit : Char} {q rest : List Char} (hunit : isDecimal unit = false)
    (hq : IsAmount unit q) (hrest : unit ∉ rest) :
    quantity? unit (q ++ rest) = (amount? q, rest) := by
  rcases hq with rfl | ⟨ds, hds, rfl⟩
  · exact quantity?_of_not_mem hrest
  · rw [List.append_assoc, List.singleton_append, quantity?_append hds.1 hds.2 hunit,
      amount?_append hds hunit]

theorem seconds?_seconds {q : List Char} (hq : IsSeconds q) : seconds? q = (amount? q, []) := by
  have hunit : isDecimal 'S' = false := by decide
  rcases hq with (rfl | ⟨ds, hds, rfl⟩) | ⟨ds, fs, hds, hfs, rfl⟩
  · rfl
  · rw [seconds?, quantity?_append hds.1 hds.2 hunit, amount?_append hds hunit]
  · have hpoint : isDecimal '.' = false := by decide
    have hspan : spanDecimals (ds ++ '.' :: (fs ++ ['S'])) = (ds, '.' :: (fs ++ ['S'])) :=
      spanDecimals_append hds.2 (by simpa using hpoint)
    rw [amount?_append hds hpoint]
    obtain ⟨d, r, rfl⟩ := List.exists_cons_of_ne_nil hds.1
    have hnone : quantity? 'S' (d :: r ++ '.' :: (fs ++ ['S'])) =
        (none, d :: r ++ '.' :: (fs ++ ['S'])) := by
      rw [quantity?, hspan]
      rfl
    rw [seconds?, hnone]
    simp only [hspan, quantity?_append hfs.1 hfs.2 hunit]

theorem mem_amount {unit c : Char} {q : List Char} (hq : IsAmount unit q) (hc : c ∈ q) :
    isDecimal c = true ∨ c = unit := by
  rcases hq with rfl | ⟨ds, hds, rfl⟩
  · cases hc
  · exact (List.mem_append.1 hc).imp (hds.2 c) List.mem_singleton.1

theorem mem_seconds {c : Char} {q : List Char} (hq : IsSeconds q) (hc : c ∈ q) :
    isDecimal c = true ∨ c = '.' ∨ c = 'S' := by
  rcases hq with hq | ⟨ds, fs, hds, hfs, rfl⟩
  · exact (mem_amount hq hc).imp_right .inr
  · simp only [List.mem_append, List.mem_cons, List.not_mem_nil, or_false] at hc
    rcases hc with hc | hc | hc | hc
    · exact .inl (hds.2 c hc)
    · exact .inr (.inl hc)
    · exact .inl (hfs.2 c hc)
    · exact .inr (.inr hc)

/-- A duration is read as the numerals before its units. -/
theorem durationParts?_append {h m s : List Char} (hne : h ++ (m ++ s) ≠ [])
    (hh : IsAmount 'H' h) (hm : IsAmount 'M' m) (hs : IsSeconds s) :
    durationParts? ('P' :: 'T' :: (h ++ (m ++ s))) = some (amount? h, amount? m, amount? s) := by
  have hseconds : 'M' ∉ s := fun hmem => by
    rcases mem_seconds hs hmem with hmem | hmem | hmem <;> exact absurd hmem (by decide)
  have hminutes : 'H' ∉ m ++ s := fun hmem => by
    rcases List.mem_append.1 hmem with hmem | hmem
    · rcases mem_amount hm hmem with hmem | hmem <;> exact absurd hmem (by decide)
    · rcases mem_seconds hs hmem with hmem | hmem | hmem <;> exact absurd hmem (by decide)
  have hlonger : 'P' :: 'T' :: (h ++ (m ++ s)) ≠ ['P', 'T'] := by simpa using hne
  simp only [durationParts?, quantity?_amount (by decide) hh hminutes,
    quantity?_amount (by decide) hm hseconds, seconds?_seconds hs]
  exact if_pos ⟨trivial, hlonger⟩

theorem durationParts?_isSome_iff {cs : List Char} :
    (durationParts? cs).isSome ↔ IsDuration cs := by
  constructor
  · intro h
    obtain ⟨parts, hparts⟩ := Option.isSome_iff_exists.1 h
    exact isDuration_of_durationParts? hparts
  · rintro ⟨h, m, s, rfl, hne, hh, hm, hs⟩
    exact Option.isSome_of_eq_some (durationParts?_append hne hh hm hs)

theorem mem_of_mem_trimChars {c : Char} {cs : List Char} (h : c ∈ trimChars cs) : c ∈ cs := by
  rw [trimChars, stripChars, List.mem_reverse] at h
  exact (List.dropWhile_sublist _).subset (List.mem_reverse.1 ((List.dropWhile_sublist _).subset h))

theorem mem_shortText {t : DateTime} {c : Char} (hc : c ∈ (t.shortText " ").toList) :
    c.isDigit = true ∨ c ∈ [' ', '-', ':'] := by
  have hdigit {n : Nat} (hn : c ∈ (two n).toList) : c.isDigit = true ∨ c ∈ [' ', '-', ':'] :=
    .inl ((spells_paddedText 2 n).digits c hn)
  simp only [DateTime.shortText, Date.shortText, String.toList_append, List.mem_append] at hc
  rcases hc with (((((hc | hc) | hc) | hc) | hc) | hc) | hc
  · exact .inl (isDigit_of_mem_natText hc)
  · exact .inr (by simp_all)
  · exact hdigit hc
  · exact .inr (by simp_all)
  · exact hdigit hc
  · exact .inr (by simp_all)
  · exact (TimeOfDay.mem_clockText hc).imp_right fun hc => by simp [hc]

theorem mem_twoDigits {ds : List Char} {t : String} {c : Char} (h : twoDigits ds = .ok t)
    (hc : c ∈ t.toList) : c.isDigit = true ∨ c = '-' := by
  unfold twoDigits at h
  split at h
  · cases h
    simp only [paddedText, String.toList_ofList, List.mem_append] at hc
    rcases hc with (hc | hc) | hc
    · exact .inr (by split_ifs at hc <;> simp_all)
    · rw [List.eq_of_mem_replicate hc]
      decide
    · exact .inl (isDigit_of_mem_toDigits c hc)
  · cases h

/-- What is written like ticks is read as another text, if it is read. -/
theorem decodeTicks?_cases (s : String) :
    ¬IsTicks (trimChars s.toList) ∧ decodeTicks? s = .ok none ∨
      IsTicks (trimChars s.toList) ∧ ∀ r, decodeTicks? s = .ok r → ∃ t ≠ s, r = some t := by
  rw [← ticksNumeral?_isSome_iff, decodeTicks?]
  cases hds : ticksNumeral? (trimChars s.toList) with
  | none => exact .inl ⟨Bool.false_ne_true, rfl⟩
  | some ds =>
    refine .inr ⟨rfl, fun r h => ?_⟩
    obtain ⟨_, _, _, hs, -⟩ := isTicks_of_ticksNumeral? hds
    have hslash : '/' ∈ s.toList := mem_of_mem_trimChars (by simp [hs])
    dsimp only at h
    split at h
    · cases h
    · obtain ⟨t, -, h⟩ := Except.bind_eq_ok_iff.1 h
      cases h
      refine ⟨_, ?_, rfl⟩
      rintro rfl
      rcases mem_shortText hslash with hmem | hmem <;> exact absurd hmem (by decide)

/-- What is written like a duration is read as another text, if it is read. -/
theorem decodeTime?_cases (s : String) :
    ¬IsDuration (trimChars s.toList) ∧ decodeTime? s = .ok none ∨
      IsDuration (trimChars s.toList) ∧ ∀ r, decodeTime? s = .ok r → ∃ t ≠ s, r = some t := by
  rw [← durationParts?_isSome_iff, decodeTime?]
  cases hparts : durationParts? (trimChars s.toList) with
  | none => exact .inl ⟨Bool.false_ne_true, rfl⟩
  | some parts =>
    refine .inr ⟨rfl, fun r h => ?_⟩
    obtain ⟨_, _, _, hs, -⟩ := isDuration_of_durationParts? hparts
    have hlead : 'P' ∈ s.toList := mem_of_mem_trimChars (by simp [hs])
    have hfield {ds : List Char} {t : String} (ht : twoDigits ds = .ok t) : 'P' ∉ t.toList :=
      fun hmem => by rcases mem_twoDigits ht hmem with hmem | hmem <;> exact absurd hmem (by decide)
    dsimp only at h
    obtain ⟨hour, hhour, h⟩ := Except.bind_eq_ok_iff.1 h
    obtain ⟨minute, hminute, h⟩ := Except.bind_eq_ok_iff.1 h
    have hmiss (second : String) (hsecond : 'P' ∉ second.toList) :
        hour ++ ":" ++ minute ++ second ≠ s := by
      rintro rfl
      simp only [String.toList_append, List.mem_append, hfield hhour, hfield hminute, hsecond,
        or_false, false_or] at hlead
      exact absurd hlead (by decide)
    split at h
    · obtain ⟨second, hsecond, h⟩ := Except.bind_eq_ok_iff.1 h
      cases h
      exact ⟨_, hmiss _ (by simp [hfield hsecond]), rfl⟩
    · cases h
      exact ⟨_, hmiss _ (by simp), rfl⟩

namespace Codec

theorem decodeFromBody_str {c : Codec} (hc : c ≠ .plain) (s : String) :
    c.decodeFromBody (.str s) = decodeTicks? s >>= fun moment? =>
      match moment? with
      | some t => pure (.str t)
      | none =>
        if startsWith "PT" s then do pure (.str ((← decodeTime? s).getD s)) else pure (.str s) := by
  cases c with
  | plain => exact absurd rfl hc
  | odata2 | odata4 => rfl

/-- A text of a body is read as it is unless it is written like ticks or a duration. -/
theorem decodeFromBody_eq_self_iff {c : Codec} (hc : c ≠ .plain) (s : String) :
    c.decodeFromBody (.str s) = .ok (.str s) ↔ ¬IsTicks (trimChars s.toList) ∧
      ¬(startsWith "PT" s = true ∧ IsDuration (trimChars s.toList)) := by
  rw [decodeFromBody_str hc]
  rcases decodeTicks?_cases s with ⟨hticks, hread⟩ | ⟨hticks, hread⟩
  · rw [Except.bind_of_ok _ hread]
    by_cases hlead : startsWith "PT" s = true
    · dsimp only
      rw [if_pos hlead]
      rcases decodeTime?_cases s with ⟨hduration, hread⟩ | ⟨hduration, hread⟩
      · rw [Except.bind_of_ok _ hread]
        exact iff_of_true rfl ⟨hticks, fun h => hduration h.2⟩
      · refine iff_of_false (fun h => ?_) fun h => h.2 ⟨hlead, hduration⟩
        obtain ⟨r, hr, h⟩ := Except.bind_eq_ok_iff.1 h
        obtain ⟨t, hne, rfl⟩ := hread r hr
        exact hne (Value.str.inj (Except.ok.inj h))
    · dsimp only
      rw [if_neg hlead]
      exact iff_of_true rfl ⟨hticks, fun h => hlead h.1⟩
  · refine iff_of_false (fun h => ?_) fun h => h.1 hticks
    obtain ⟨r, hr, h⟩ := Except.bind_eq_ok_iff.1 h
    obtain ⟨t, hne, rfl⟩ := hread r hr
    exact hne (Value.str.inj (Except.ok.inj h))

theorem encodeForBody_str {c : Codec} {type : DataType} {declared : Option String}
    (h : c.hint type declared = .string) (s : String) :
    c.encodeForBody (.value (.str s)) type declared = .ok (.str s) := by
  cases c with
  | plain => rfl
  | odata2 | odata4 =>
    simp only [encodeForBody, h]
    rfl

/-- Exactly the texts that are written neither like ticks nor like a duration survive a body. -/
theorem text_roundTrip_iff {c : Codec} (hc : c ≠ .plain) {type : DataType}
    {declared : Option String} (h : c.hint type declared = .string) (s : String) :
    (c.encodeForBody (.value (.str s)) type declared >>= c.decodeFromBody) = .ok (.str s) ↔
      ¬IsTicks (trimChars s.toList) ∧
        ¬(startsWith "PT" s = true ∧ IsDuration (trimChars s.toList)) := by
  rw [Except.bind_of_ok _ (encodeForBody_str h s), decodeFromBody_eq_self_iff hc]

/-- The number of an article, which starts as a duration does. -/
theorem text_roundTrip_article :
    odata4 ≠ .plain ∧ odata4.hint .string none = .string ∧
      (odata4.encodeForBody (.value (.str "PT-500M")) .string none >>= odata4.decodeFromBody) =
        .ok (.str "PT-500M") ∧
      ¬IsTicks (trimChars "PT-500M".toList) ∧ ¬IsDuration (trimChars "PT-500M".toList) := by
  have hticks : ¬IsTicks (trimChars "PT-500M".toList) := by
    rw [← ticksNumeral?_isSome_iff]
    decide
  have hduration : ¬IsDuration (trimChars "PT-500M".toList) := by
    rw [← durationParts?_isSome_iff]
    decide
  exact ⟨by decide, by decide, (text_roundTrip_iff (by decide) (by decide) "PT-500M").2
    ⟨hticks, fun h => hduration h.2⟩, hticks, hduration⟩

/-- A text that version 2 takes for a duration, and one that version 4 takes for ticks. -/
theorem text_roundTrip_changed :
    odata2.hint .string none = .string ∧ odata4.hint .string none = .string ∧
      (∃ t ≠ "PT5M", (odata2.encodeForBody (.value (.str "PT5M")) .string none >>=
        odata2.decodeFromBody) = .ok (.str t)) ∧
      ∃ t ≠ "/Date(0)/", (odata4.encodeForBody (.value (.str "/Date(0)/")) .string none >>=
        odata4.decodeFromBody) = .ok (.str t) :=
  ⟨by decide, by decide, ⟨"00:05", by decide, rfl⟩, ⟨"1970-01-01 00:00:00", by decide, rfl⟩⟩

end Codec

end EntityQuery
