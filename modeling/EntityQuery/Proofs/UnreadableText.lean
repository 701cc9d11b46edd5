import EntityQuery.Proofs.NumberReading
import EntityQuery.Proofs.Selection

/-!
# Texts that fail to be read

A text of a body that is written like ticks or like a duration is taken for one, whether or not
the numbers in it can be. So there are texts that fail: ticks outside of the years 1 to 9999, and
numerals of more digits than are read (`IsUnreadable`). All other values are read, and the rows of a
body are read exactly if no field that is asked for holds such a text (`read_unless_unreadable`).
-/

namespace EntityQuery

open Calendar Number Text

/-- A duration with a numeral that is too long. -/
def IsLongDuration (cs : List Char) : Prop :=
  ∃ h m s, cs = 'P' :: 'T' :: (h ++ (m ++ s)) ∧ h ++ (m ++ s) ≠ [] ∧
    IsAmount 'H' h ∧ IsAmount 'M' m ∧ IsSeconds s ∧
      ∃ q ∈ [h, m, s], maxDigits < (spanDecimals q).1.length

theorem twoDigits_ok_iff {ds : List Char} (h : IsDigits ds) :
    (∃ t, twoDigits ds = .ok t) ↔ ds.length ≤ maxDigits := by
  rw [← isSome_integerOfChars?_iff (by decide : [] ∈ numeralSigns) h, List.nil_append, twoDigits]
  cases integerOfChars? ds <;> simp

/-- An amount that is there is a numeral and what follows it. -/
theorem amount?_cases {q : List Char}
    (hq : (∃ unit, isDecimal unit = false ∧ IsAmount unit q) ∨ IsSeconds q) :
    amount? q = none ∨ ∃ ds, IsDigits ds ∧ amount? q = some ds := by
  have hamount {unit : Char} (hunit : isDecimal unit = false) (hq : IsAmount unit q) :
      amount? q = none ∨ ∃ ds, IsDigits ds ∧ amount? q = some ds := by
    rcases hq with rfl | ⟨ds, hds, rfl⟩
    · exact .inl rfl
    · exact .inr ⟨ds, hds, amount?_append hds hunit⟩
  rcases hq with ⟨unit, hunit, hq⟩ | hq | ⟨ds, fs, hds, -, rfl⟩
  · exact hamount hunit hq
  · exact hamount (by decide) hq
  · exact .inr ⟨ds, hds, amount?_append hds (by decide)⟩

theorem getD_amount? (q : List Char) : (amount? q).getD [] = (spanDecimals q).1 := by
  unfold amount?
  split_ifs with hnil
  · rw [hnil]
    rfl
  · rfl

/-- Where no amount is given, a zero is read. -/
theorem twoDigits_amount_iff {q : List Char}
    (hq : (∃ unit, isDecimal unit = false ∧ IsAmount unit q) ∨ IsSeconds q) :
    (∃ t, twoDigits ((amount? q).getD ['0']) = .ok t) ↔ (spanDecimals q).1.length ≤ maxDigits := by
  rw [← getD_amount?]
  rcases amount?_cases hq with hnone | ⟨ds, hds, hsome⟩
  · rw [hnone]
    exact iff_of_true ⟨_, rfl⟩ (Nat.zero_le _)
  · rw [hsome]
    exact twoDigits_ok_iff hds

/-- A duration is long by the numerals that are read of it. -/
theorem isLongDuration_iff {h m s : List Char} (hne : h ++ (m ++ s) ≠ []) (hh : IsAmount 'H' h)
    (hm : IsAmount 'M' m) (hs : IsSeconds s) :
    IsLongDuration ('P' :: 'T' :: (h ++ (m ++ s))) ↔
      ∃ q ∈ [h, m, s], maxDigits < (spanDecimals q).1.length := by
  constructor
  · rintro ⟨h', m', s', hcs, hne', hh', hm', hs', hlong⟩
    have hparts := durationParts?_append hne hh hm hs
    rw [hcs, durationParts?_append hne' hh' hm' hs'] at hparts
    simp only [Option.some.injEq, Prod.mk.injEq] at hparts
    obtain ⟨hhours, hminutes, hseconds⟩ := hparts
    simp only [List.exists_mem_cons_iff, List.not_mem_nil, false_and, exists_false, or_false,
      ← getD_amount?] at hlong ⊢
    rwa [hhours, hminutes, hseconds] at hlong
  · exact fun hlong => ⟨h, m, s, rfl, hne, hh, hm, hs, hlong⟩

theorem decodeTime?_parts_iff {text : String} {h m s : Option (List Char)}
    (hparts : durationParts? (trimChars text.toList) = some (h, m, s)) :
    (∃ r, decodeTime? text = .ok r) ↔ (∃ t, twoDigits (h.getD ['0']) = .ok t) ∧
      (∃ t, twoDigits (m.getD ['0']) = .ok t) ∧ ∃ t, twoDigits (s.getD ['0']) = .ok t := by
  have hzero : twoDigits ['0'] = .ok "00" := by decide
  rw [decodeTime?, hparts]
  dsimp only
  cases twoDigits (h.getD ['0']) with
  | error e => simp [bind, Except.bind]
  | ok hour =>
    cases twoDigits (m.getD ['0']) with
    | error e => simp [bind, Except.bind]
    | ok minute =>
      cases s with
      | none => simp [bind, Except.bind, pure, Except.pure, hzero]
      | some ds => cases hds : twoDigits ds <;> simp [bind, Except.bind, pure, Except.pure, hds]

/-- A text fails to be read as a duration exactly if it is one with a numeral that is too long. -/
theorem decodeTime?_ok_iff (text : String) :
    (∃ r, decodeTime? text = .ok r) ↔ ¬IsLongDuration (trimChars text.toList) := by
  cases hparts : durationParts? (trimChars text.toList) with
  | none =>
    rw [decodeTime?, hparts]
    refine iff_of_true ⟨none, rfl⟩ ?_
    rintro ⟨h, m, s, hcs, hne, hh, hm, hs, -⟩
    rw [hcs, durationParts?_append hne hh hm hs] at hparts
    cases hparts
  | some parts =>
    obtain ⟨h, m, s, hcs, hne, hh, hm, hs⟩ := isDuration_of_durationParts? hparts
    have hread := durationParts?_append hne hh hm hs
    rw [← hcs] at hread
    rw [decodeTime?_parts_iff hread, hcs, isLongDuration_iff hne hh hm hs,
      twoDigits_amount_iff (.inl ⟨'H', by decide, hh⟩),
      twoDigits_amount_iff (.inl ⟨'M', by decide, hm⟩), twoDigits_amount_iff (.inr hs)]
    simp

/-- Ticks that stand for no moment: their numeral is too long, or the moment is not in the years 1
to 9999. -/
def IsStrayTicks (cs : List Char) : Prop :=
  ∃ lead ds offset, cs = "/Date(".toList ++ (lead ++ (ds ++ (offset ++ [')', '/']))) ∧
    (lead = [] ∨ lead = ['-']) ∧ IsDigits ds ∧ IsOffset offset ∧
      (maxDigits < ds.length ∨ ∃ n, integerOfChars? (lead ++ ds) = some n ∧
        (n < -62135596800000 ∨ 253402300800000 ≤ n))

theorem mem_numeralSigns {lead : List Char} (h : lead = [] ∨ lead = ['-']) :
    lead ∈ numeralSigns := by
  rcases h with rfl | rfl <;> decide

theorem momentAt_ok_iff (seconds : Int) :
    (∃ t, momentAt seconds = .ok t) ↔ -62135596800 ≤ seconds ∧ seconds ≤ 253402300799 := by
  rw [← isSome_ofClockSeconds?_iff, momentAt]
  cases DateTime.ofClockSeconds? seconds with
  | some t => simp
  | none => dsimp only; split_ifs <;> simp

theorem decodeTicks?_numeral_iff {text : String} {ds : List Char}
    (hds : ticksNumeral? (trimChars text.toList) = some ds) :
    (∃ r, decodeTicks? text = .ok r) ↔ ∃ n, integerOfChars? ds = some n ∧
      -62135596800000 ≤ n ∧ n < 253402300800000 := by
  rw [decodeTicks?, hds]
  dsimp only
  cases integerOfChars? ds with
  | none => simp
  | some n =>
    have hseconds := momentAt_ok_iff (Int.fdiv n 1000)
    have hcalendar : (∃ t, momentAt (Int.fdiv n 1000) = .ok t) ↔
        -62135596800000 ≤ n ∧ n < 253402300800000 := by
      rw [hseconds, Int.fdiv_eq_ediv_of_nonneg _ (by decide)]
      omega
    simp only [Option.some.injEq, exists_eq_left', ← hcalendar]
    cases momentAt (Int.fdiv n 1000) <;> simp [bind, Except.bind, pure, Except.pure]

/-- A text fails to be read as ticks exactly if it is ticks that stand for no moment. -/
theorem decodeTicks?_ok_iff (text : String) :
    (∃ r, decodeTicks? text = .ok r) ↔ ¬IsStrayTicks (trimChars text.toList) := by
  cases hds : ticksNumeral? (trimChars text.toList) with
  | none =>
    rw [decodeTicks?, hds]
    refine iff_of_true ⟨none, rfl⟩ ?_
    rintro ⟨lead, ds, offset, hcs, hlead, ⟨hne, hdigits⟩, hoffset, -⟩
    rw [hcs, ticksNumeral?_append hlead hne hdigits hoffset] at hds
    cases hds
  | some numeral =>
    rw [decodeTicks?_numeral_iff hds]
    constructor
    · rintro ⟨n, hn, hrange⟩ ⟨lead, ds, offset, hcs, hlead, hdigits, hoffset, hstray⟩
      rw [hcs, ticksNumeral?_append hlead hdigits.1 hdigits.2 hoffset] at hds
      cases hds
      have hshort := (isSome_integerOfChars?_iff (mem_numeralSigns hlead) hdigits).1
        (Option.isSome_of_eq_some hn)
      rcases hstray with hlong | ⟨m, hm, hout⟩
      · omega
      · rw [hn] at hm
        cases hm
        omega
    · intro hstray
      obtain ⟨lead, ds, offset, hcs, hlead, hdigits, hoffset⟩ := isTicks_of_ticksNumeral? hds
      rw [hcs, ticksNumeral?_append hlead hdigits.1 hdigits.2 hoffset] at hds
      cases hds
      by_contra hnone
      refine hstray ⟨lead, ds, offset, hcs, hlead, hdigits, hoffset, ?_⟩
      cases hn : integerOfChars? (lead ++ ds) with
      | none =>
        left
        by_contra hshort
        have hsome := (isSome_integerOfChars?_iff (mem_numeralSigns hlead) hdigits).2
          (Nat.not_lt.1 hshort)
        rw [hn] at hsome
        cases hsome
      | some n =>
        refine .inr ⟨n, rfl, ?_⟩
        by_contra hrange
        exact hnone ⟨n, hn, by omega⟩

/-- A text that fails to be read. -/
def IsUnreadable (s : String) : Prop :=
  IsStrayTicks (trimChars s.toList) ∨
    (startsWith "PT" s = true ∧ IsLongDuration (trimChars s.toList))

theorem not_isLongDuration_of_isTicks {cs : List Char} (h : IsTicks cs) : ¬IsLongDuration cs := by
  obtain ⟨lead, ds, offset, rfl, -⟩ := h
  rintro ⟨_, _, _, hcs, -⟩
  cases hcs

/-- A codec reads every value but the texts that fail to be read. -/
theorem Codec.decodeFromBody_ok_iff {c : Codec} (hc : c ≠ .plain) (v : Value) :
    (∃ w, c.decodeFromBody v = .ok w) ↔ ∀ s, v = .str s → ¬IsUnreadable s := by
  cases v with
  | str s =>
    simp only [Value.str.injEq, forall_eq', IsUnreadable, not_or, ← decodeTicks?_ok_iff, not_and,
      ← decodeTime?_ok_iff, decodeFromBody_str hc]
    rcases decodeTicks?_cases s with ⟨-, hread⟩ | ⟨hticks, hread⟩
    · rw [Except.bind_of_ok _ hread]
      dsimp only
      split_ifs with hlead
      · cases hduration : decodeTime? s <;>
          simp [hlead, hread, bind, Except.bind, pure, Except.pure]
      · exact iff_of_true ⟨_, rfl⟩ ⟨⟨_, hread⟩, fun h => absurd h hlead⟩
    · have hduration := (decodeTime?_ok_iff s).2 (not_isLongDuration_of_isTicks hticks)
      constructor
      · rintro ⟨w, hw⟩
        obtain ⟨r, hr, -⟩ := Except.bind_eq_ok_iff.1 hw
        exact ⟨⟨r, hr⟩, fun _ => hduration⟩
      · rintro ⟨⟨r, hr⟩, -⟩
        obtain ⟨t, -, rfl⟩ := hread r hr
        exact ⟨_, Except.bind_of_ok _ hr⟩
  | null | bool _ | int _ | float _ | list _ | map _ =>
    refine iff_of_true ?_ nofun
    cases c with
    | plain => exact absurd rfl hc
    | odata2 | odata4 =>
      unfold decodeFromBody
      dsimp only
      split <;> exact ⟨_, rfl⟩

namespace Body

variable {d : Dialect} {attributes : List Attribute}

/-- A row is read if every field of it that is asked for is. -/
theorem mapRow_ok_iff (hd : d.codec ≠ .plain) (read : Attribute → Except Error Value) :
    (∃ row, mapRow d attributes read = .ok row) ↔ ∀ a ∈ attributes, a.hasRemoteAddress = true →
      ∃ w, read a = .ok w ∧ ∀ s, a.joined w = .str s → ¬IsUnreadable s := by
  refine List.exists_foldlM_eq_ok_iff (fun row a _ => ?_) []
  cases hremote : a.hasRemoteAddress with
  | false => exact iff_of_true ⟨row, rfl⟩ nofun
  | true =>
    simp only [Bool.not_true, Bool.false_eq_true, if_false, forall_const,
      ← Codec.decodeFromBody_ok_iff hd]
    constructor
    · rintro ⟨row', h⟩
      obtain ⟨w, hw, h⟩ := Except.bind_eq_ok_iff.1 h
      obtain ⟨x, hx, -⟩ := Except.bind_eq_ok_iff.1 h
      exact ⟨w, hw, x, Except.mapError_eq_ok_iff.1 hx⟩
    · rintro ⟨w, hw, x, hx⟩
      exact ⟨Row.put row a.name x, Except.bind_eq_ok_iff.2 ⟨w, hw, Except.bind_eq_ok_iff.2
        ⟨x, Except.mapError_eq_ok_iff.2 hx, rfl⟩⟩⟩

theorem rows_data_ok_iff (hd : d.codec ≠ .plain) (q : Query) (itemScoped : Bool) (v : Value) :
    (∃ rows, (Body.data v).rows d q itemScoped = .ok rows) ↔
      ∃ attributes c, q.selected = .ok attributes ∧ container d q.entity itemScoped v = .ok c ∧
        ∀ raw ∈ c.rowMaps, ∀ a ∈ attributes, a.hasRemoteAddress = true →
          ∃ w, a.read raw = .ok w ∧ ∀ s, a.joined w = .str s → ¬IsUnreadable s := by
  simp only [← mapRow_ok_iff hd, ← List.exists_mapM_eq_ok_iff]
  constructor
  · rintro ⟨rows, h⟩
    obtain ⟨attributes, hselected, h⟩ := Except.bind_eq_ok_iff.1 h
    obtain ⟨c, hc, h⟩ := Except.bind_eq_ok_iff.1 h
    exact ⟨attributes, c, Except.mapError_eq_ok_iff.1 hselected, hc, rows, h⟩
  · rintro ⟨attributes, c, hselected, hc, rows, h⟩
    exact ⟨rows, Except.bind_eq_ok_iff.2 ⟨attributes, Except.mapError_eq_ok_iff.2 hselected,
      Except.bind_eq_ok_iff.2 ⟨c, hc, h⟩⟩⟩

end Body

/-- A value is read unless it is a text that fails to be. A body gives its rows if its rows are
found, and in each of them every field that is asked for is found and is read. -/
theorem read_unless_unreadable {c : Codec} (hc : c ≠ .plain) (v : Value) :
    ((∃ w, c.decodeFromBody v = .ok w) ↔ ∀ s, v = .str s → ¬IsUnreadable s) ∧
      ∀ d : Dialect, d.codec = c → ∀ q itemScoped,
        ((∃ rows, (Body.data v).rows d q itemScoped = .ok rows) ↔
          ∃ attributes rows, q.selected = .ok attributes ∧
            Body.container d q.entity itemScoped v = .ok rows ∧
            ∀ raw ∈ rows.rowMaps, ∀ a ∈ attributes, a.hasRemoteAddress = true →
              ∃ w, a.read raw = .ok w ∧ ∀ s, a.joined w = .str s → ¬IsUnreadable s) := by
  refine ⟨Codec.decodeFromBody_ok_iff hc v, ?_⟩
  rintro d rfl q itemScoped
  exact Body.rows_data_ok_iff hc q itemScoped v

/-- Meetings, of which only the start is asked for. -/
def meetings : Query where
  entity := { name := "meetings", dataAddress := "Meetings", attributes := [
    { name := "start", dataAddress := "Start", dataType := .timestamp }] }

/-- An answer with one meeting. -/
def meetingAnswer (start : String) : Value := .map [("value", .list [.map [("Start", .str start)]])]

theorem read_unless_unreadable_meeting :
    Codec.odata4 ≠ .plain ∧ Dialect.odata4.codec = .odata4 ∧
      ∃ rows, (Body.data (meetingAnswer "/Date(0)/")).rows .odata4 meetings false = .ok rows := by
  obtain ⟨-, hrows⟩ := read_unless_unreadable (c := .odata4) (by decide)
    (meetingAnswer "/Date(0)/")
  refine ⟨by decide, rfl, (hrows .odata4 rfl meetings false).2 ⟨_, _, rfl, rfl, ?_⟩⟩
  intro raw hraw a ha _
  obtain rfl := List.mem_singleton.1 hraw
  obtain rfl := List.mem_singleton.1 ha
  exact ⟨.str "/Date(0)/", by decide +kernel,
    (Codec.decodeFromBody_ok_iff (c := .odata4) (by decide) _).1
      ⟨.str "1970-01-01 00:00:00", rfl⟩⟩

/-- The first moment after the year 9999 fails to be read, and with it the whole answer. -/
theorem read_fails_after_lastYear :
    Codec.odata2.decodeFromBody (.str "/Date(253402300800000)/") = .error .year ∧
      Codec.odata4.decodeFromBody (.str "/Date(253402300800000)/") = .error .year ∧
      (Body.data (meetingAnswer "/Date(253402300800000)/")).rows .odata4 meetings false =
        .error (.codec .year "") :=
  ⟨by decide +kernel, by decide +kernel, by decide +kernel⟩

end EntityQuery
