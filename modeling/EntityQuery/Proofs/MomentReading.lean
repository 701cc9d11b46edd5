import EntityQuery.Codec.Conversion
import EntityQuery.Proofs.Numeral
import Mathlib.Data.List.Basic
import Mathlib.Data.List.TakeWhile

/-!
# Moments are read as they are written

A numeral of a fixed width takes the digits that were written for it (`numeral?_append`), so date,
separator and time of a moment are told apart by their places, and a moment without offset and
fraction is read as itself (`ofChars?_shortText`) from the year 1000 on, when the year fills the
four places it is read from. Before, it is not read at all (`Typed.toMoment_shortText_of_early`).
-/

namespace EntityQuery

open Number Text

namespace Calendar

theorem ne_of_isDigit {c d : Char} (hc : c.isDigit = true) (hd : d.isDigit = false) : c ≠ d := by
  rintro rfl
  rw [hc] at hd
  cases hd

theorem asciiDigit?_of_isDigit {c : Char} (h : c.isDigit = true) :
    asciiDigit? c = some (c.toNat - 48) := if_pos h

theorem numeral?_append {cs : List Char} {n : Nat} (h : Spells cs n) (rest : List Char) :
    numeral? cs.length (cs ++ rest) = some (n, rest) := by
  obtain ⟨hdigits, rfl⟩ := h
  induction cs with
  | nil => rfl
  | cons c cs ih =>
    rw [List.forall_mem_cons] at hdigits
    have hcons : ofDigits ((c :: cs).map fun c => c.toNat - 48) =
        (c.toNat - 48) * Nat.pow 10 cs.length + ofDigits (cs.map fun c => c.toNat - 48) := by
      rw [List.map_cons, ← List.singleton_append, ofDigits_append, List.length_map]
      simp [ofDigits]
    rw [List.length_cons, List.cons_append, numeral?, asciiDigit?_of_isDigit hdigits.1, hcons]
    simp [ih hdigits.2]

theorem exists_two {n : Nat} (h : n < 100) :
    ∃ a b, (two n).toList = [a, b] ∧ Spells [a, b] n := by
  have hlength : ∀ n < 100, (two n).toList.length = 2 := by decide
  obtain ⟨a, b, hab⟩ := List.length_eq_two.1 (hlength n h)
  exact ⟨a, b, hab, hab ▸ spells_paddedText 2 n⟩

theorem exists_four {n : Nat} (hleast : 1000 ≤ n) (hmost : n ≤ 9999) :
    ∃ a b c d, (natText n).toList = [a, b, c, d] ∧ Spells [a, b, c, d] n := by
  have hchars : (natText n).toList = Nat.toDigits 10 n := String.toList_ofList
  have hlength : (Nat.toDigits 10 n).length = 4 := by
    have hle := (Nat.length_toDigits_le_iff (b := 10) (k := 4) (by decide) (by decide)).2
      (by omega : n < 10 ^ 4)
    have hlt := mt (Nat.length_toDigits_le_iff (b := 10) (k := 3) (by decide) (by decide)).1
      (by omega : ¬n < 10 ^ 3)
    omega
  obtain ⟨a, b, c, d, habcd⟩ := List.length_eq_four.1 hlength
  exact ⟨a, b, c, d, hchars.trans habcd, habcd ▸ spells_toDigits n⟩

theorem Date.of?_self (d : Date) : Date.of? d.year d.month d.day = some d := dif_pos d.valid

theorem TimeOfDay.of?_self (t : TimeOfDay) :
    TimeOfDay.of? t.hour t.minute t.second t.microsecond = some t := dif_pos t.valid

theorem daysInMonth_le (year month : Nat) : daysInMonth year month ≤ 31 := by
  unfold daysInMonth
  split
  · split <;> decide
  all_goals decide

theorem Date.exists_shortText {d : Date} (hyear : 1000 ≤ d.year) :
    ∃ y₁ y₂ y₃ y₄ m₁ m₂ d₁ d₂, d.shortText.toList = [y₁, y₂, y₃, y₄, '-', m₁, m₂, '-', d₁, d₂] ∧
      Spells [y₁, y₂, y₃, y₄] d.year ∧ Spells [m₁, m₂] d.month ∧ Spells [d₁, d₂] d.day := by
  obtain ⟨-, hmost, -, hmonth, -, hday⟩ := d.valid
  have hdays := daysInMonth_le d.year d.month
  obtain ⟨y₁, y₂, y₃, y₄, hyears, hy⟩ := exists_four hyear hmost
  obtain ⟨m₁, m₂, hmonths, hm⟩ := exists_two (by omega : d.month < 100)
  obtain ⟨d₁, d₂, hdays, hd⟩ := exists_two (by omega : d.day < 100)
  refine ⟨y₁, y₂, y₃, y₄, m₁, m₂, d₁, d₂, ?_, hy, hm, hd⟩
  simp [Date.shortText, hyears, hmonths, hdays]

theorem Date.ofChars?_shortText {d : Date} (hyear : 1000 ≤ d.year) :
    Date.ofChars? d.shortText.toList = some d := by
  obtain ⟨y₁, y₂, y₃, y₄, m₁, m₂, d₁, d₂, htext, hy, hm, hd⟩ := d.exists_shortText hyear
  have hweek : m₁ ≠ 'W' := ne_of_isDigit (hm.digits _ List.mem_cons_self) (by decide)
  have hyears : numeral? 4 (y₁ :: y₂ :: y₃ :: y₄ :: '-' :: m₁ :: m₂ :: '-' :: d₁ :: d₂ :: []) =
      some (d.year, '-' :: m₁ :: m₂ :: '-' :: d₁ :: d₂ :: []) := numeral?_append hy _
  have hmonths : numeral? 2 (m₁ :: m₂ :: '-' :: d₁ :: d₂ :: []) =
      some (d.month, '-' :: d₁ :: d₂ :: []) := numeral?_append hm _
  have hdays : numeral? 2 (d₁ :: d₂ :: []) = some (d.day, []) := numeral?_append hd []
  rw [htext, Date.ofChars?, hyears]
  simp [hweek, hmonths, hdays, Text.after?, d.of?_self]

theorem TimeOfDay.exists_clockText (t : TimeOfDay) :
    ∃ h₁ h₂ m₁ m₂ s₁ s₂, t.clockText.toList = [h₁, h₂, ':', m₁, m₂, ':', s₁, s₂] ∧
      Spells [h₁, h₂] t.hour ∧ Spells [m₁, m₂] t.minute ∧ Spells [s₁, s₂] t.second := by
  obtain ⟨hhour, hminute, hsecond, -⟩ := t.valid
  obtain ⟨h₁, h₂, hhours, hh⟩ := exists_two (by omega : t.hour < 100)
  obtain ⟨m₁, m₂, hminutes, hm⟩ := exists_two (by omega : t.minute < 100)
  obtain ⟨s₁, s₂, hseconds, hs⟩ := exists_two (by omega : t.second < 100)
  refine ⟨h₁, h₂, m₁, m₂, s₁, s₂, ?_, hh, hm, hs⟩
  simp [TimeOfDay.clockText, hhours, hminutes, hseconds]

theorem TimeOfDay.mem_clockText {t : TimeOfDay} {c : Char} (hc : c ∈ t.clockText.toList) :
    c.isDigit = true ∨ c = ':' := by
  simp only [TimeOfDay.clockText, String.toList_append, List.mem_append] at hc
  rcases hc with (((h | h) | h) | h) | h
  · exact .inl ((spells_paddedText 2 t.hour).digits c h)
  · exact .inr (List.mem_singleton.1 h)
  · exact .inl ((spells_paddedText 2 t.minute).digits c h)
  · exact .inr (List.mem_singleton.1 h)
  · exact .inl ((spells_paddedText 2 t.second).digits c h)

theorem timeOffset?_clockText {t : TimeOfDay} (hfraction : t.microsecond = 0) :
    timeOffset? t.clockText.toList = some (t, none) := by
  obtain ⟨h₁, h₂, m₁, m₂, s₁, s₂, htext, hh, hm, hs⟩ := t.exists_clockText
  have hhours : numeral? 2 (h₁ :: h₂ :: ':' :: m₁ :: m₂ :: ':' :: s₁ :: s₂ :: []) =
      some (t.hour, ':' :: m₁ :: m₂ :: ':' :: s₁ :: s₂ :: []) := numeral?_append hh _
  have hminutes : numeral? 2 (m₁ :: m₂ :: ':' :: s₁ :: s₂ :: []) =
      some (t.minute, ':' :: s₁ :: s₂ :: []) := numeral?_append hm _
  have hseconds : numeral? 2 (s₁ :: s₂ :: []) = some (t.second, []) := numeral?_append hs []
  have hclock : clock? 0 true {} t.clockText.toList 3 =
      some (⟨t.hour, t.minute, t.second, 0⟩, false) := by
    rw [htext]
    simp [clock?, hhours, hminutes, hseconds]
  have hzone : t.clockText.toList.takeWhile (fun c => !(c == '+' || c == '-' || c == 'Z')) =
      t.clockText.toList := by
    rw [List.takeWhile_eq_self_iff]
    intro c hc
    rcases TimeOfDay.mem_clockText hc with hc | rfl
    · simp [ne_of_isDigit hc (d := '+') (by decide), ne_of_isDigit hc (d := '-') (by decide),
        ne_of_isDigit hc (d := 'Z') (by decide)]
    · decide
  have htime : TimeOfDay.of? t.hour t.minute t.second 0 = some t := by
    rw [← hfraction, t.of?_self]
  rw [timeOffset?, hzone, List.drop_length]
  simp [hclock, htime]

variable {t : DateTime} {sep : String} {c : Char}

theorem DateTime.ofChars?_shortText (hyear : 1000 ≤ t.date.year)
    (hfraction : t.time.microsecond = 0) (hoffset : t.offset = none) (hsep : sep.toList = [c]) :
    DateTime.ofChars? (t.shortText sep).toList = some t := by
  obtain ⟨y₁, y₂, y₃, y₄, m₁, m₂, d₁, d₂, htext, -, hm, -⟩ := t.date.exists_shortText hyear
  have hweek : m₁ ≠ 'W' := ne_of_isDigit (hm.digits _ List.mem_cons_self) (by decide)
  have hchars : (t.shortText sep).toList =
      t.date.shortText.toList ++ c :: t.time.clockText.toList := by
    simp [DateTime.shortText, hsep]
  have hdate : dateLength? (t.date.shortText.toList ++ c :: t.time.clockText.toList) =
      some 10 := by
    rw [htext]
    simp [dateLength?, hweek]
  have hten : t.date.shortText.toList.length = 10 := by rw [htext]; rfl
  have hlength : ¬(t.date.shortText.toList ++ c :: t.time.clockText.toList).length < 7 := by
    rw [List.length_append, hten]
    omega
  rw [hchars, DateTime.ofChars?, if_neg hlength, hdate, Option.bind_eq_bind, Option.bind_some,
    ← hten, List.take_left, List.drop_left, Date.ofChars?_shortText hyear]
  simp [timeOffset?_clockText hfraction, ← hoffset]

end Calendar

open Calendar

/-- A text `YYYY-MM-DD hh:mm:ss` of a day of the calendar and a time of day, from the year 1000 on,
when the year has four digits. -/
def IsMomentText (s : String) : Prop :=
  ∃ t : DateTime, 1000 ≤ t.date.year ∧ t.time.microsecond = 0 ∧ t.offset = none ∧
    s = t.date.shortText ++ " " ++ t.time.clockText

/-- A moment is the one that its text stands for. -/
theorem Typed.toMoment_shortText {t : DateTime} {sep : String} {c : Char}
    (hyear : 1000 ≤ t.date.year) (hfraction : t.time.microsecond = 0) (hoffset : t.offset = none)
    (hsep : sep.toList = [c]) :
    Typed.toMoment (.value (.str (t.shortText sep))) = .ok t := by
  obtain ⟨y₁, y₂, y₃, y₄, m₁, m₂, d₁, d₂, hdate, hy, -⟩ := t.date.exists_shortText hyear
  obtain ⟨h₁, h₂, n₁, n₂, s₁, s₂, htime, -, -, hs⟩ := t.time.exists_clockText
  have hfirst : y₁.isDigit = true := hy.digits _ List.mem_cons_self
  have hlast : s₂.isDigit = true := hs.digits _ (by simp)
  have hchars : (t.shortText sep).toList =
      [y₁, y₂, y₃, y₄, '-', m₁, m₂, '-', d₁, d₂, c, h₁, h₂, ':', n₁, n₂, ':', s₁, s₂] := by
    simp [DateTime.shortText, hsep, hdate, htime]
  have htrim : trimChars (t.shortText sep).toList = (t.shortText sep).toList := by
    apply trimChars_of_ends
    · simp [hchars, isBlank_of_isDigit_ascii hfirst]
    · simp [hchars, isBlank_of_isDigit_ascii hlast]
  have hzone : s₂ ≠ 'Z' := ne_of_isDigit hlast (by decide)
  have hread := DateTime.ofChars?_shortText hyear hfraction hoffset hsep
  simp only [Typed.toMoment, Typed.text, Value.text, htrim]
  rw [hchars] at hread ⊢
  simp [hzone, hread]

/-- What is written of a moment: neither fraction nor offset. -/
def Calendar.DateTime.written (t : DateTime) : DateTime where
  date := t.date
  time := { t.time with
    microsecond := 0
    valid := ⟨t.time.valid.1, t.time.valid.2.1, t.time.valid.2.2.1, Nat.zero_le _⟩ }
  offset := none

/-- The moment that a text stands for is what was written of it. -/
theorem Typed.toMoment_written {t : DateTime} {sep : String} {c : Char}
    (hyear : 1000 ≤ t.date.year) (hsep : sep.toList = [c]) :
    Typed.toMoment (.value (.str (t.shortText sep))) = .ok t.written :=
  toMoment_shortText (t := t.written) hyear rfl rfl hsep

namespace Calendar

theorem numeral?_eq_none {ds rest : List Char} {c : Char} {n : Nat} (hlength : ds.length < n)
    (hc : c.isDigit = false) : numeral? n (ds ++ c :: rest) = none := by
  induction ds generalizing n with
  | nil =>
    obtain ⟨n, rfl⟩ := Nat.exists_eq_add_of_le' hlength
    simp [numeral?, asciiDigit?, hc]
  | cons d ds ih =>
    obtain ⟨n, rfl⟩ := Nat.exists_eq_add_of_le' (Nat.one_le_of_lt hlength)
    have hrest := ih (n := n) (by simpa using hlength)
    rw [List.cons_append, numeral?, hrest]
    cases asciiDigit? d <;> rfl

theorem seven_le_dateLength? {cs : List Char} {n : Nat} (h : dateLength? cs = some n) : 7 ≤ n := by
  unfold dateLength? at h
  dsimp only at h
  split_ifs at h <;> cases h <;> omega

/-- A year of less than four digits is not read. -/
theorem DateTime.ofChars?_eq_none {ds rest : List Char} (hlength : ds.length < 4) :
    DateTime.ofChars? (ds ++ '-' :: rest) = none := by
  unfold DateTime.ofChars?
  split_ifs
  · rfl
  cases hn : dateLength? (ds ++ '-' :: rest) with
  | none => rfl
  | some n =>
    have hseven := seven_le_dateLength? hn
    have htake : (ds ++ '-' :: rest).take n = ds ++ '-' :: rest.take (n - ds.length - 1) := by
      obtain ⟨k, hk⟩ := Nat.exists_eq_add_of_lt (by omega : ds.length < n)
      rw [List.take_append, List.take_of_length_le (by omega), hk]
      simp [show ds.length + k + 1 - ds.length = k + 1 by omega]
    have hdate : Date.ofChars? ((ds ++ '-' :: rest).take n) = none := by
      rw [htake, Date.ofChars?, numeral?_eq_none hlength (by decide)]
      rfl
    rw [Option.bind_eq_bind, Option.bind_some, hdate]
    rfl

end Calendar

/-- What a year of less than four digits starts is no moment. -/
theorem Typed.toMoment_shortText_of_early {t : DateTime} (sep : String)
    (hyear : t.date.year < 1000) :
    Typed.toMoment (.value (.str (t.shortText sep))) = .error (.malformed .moment) := by
  obtain ⟨h₁, h₂, n₁, n₂, s₁, s₂, htime, -, -, hs⟩ := t.time.exists_clockText
  have hlast : s₂.isDigit = true := hs.digits _ (by simp)
  have hlength : (Nat.toDigits 10 t.date.year).length < 4 :=
    Nat.lt_succ_of_le ((Nat.length_toDigits_le_iff (by decide) (by decide)).2 hyear)
  have hchars : (t.shortText sep).toList = Nat.toDigits 10 t.date.year ++ '-' ::
      ((two t.date.month).toList ++ '-' :: ((two t.date.day).toList ++
        (sep.toList ++ [h₁, h₂, ':', n₁, n₂, ':', s₁, s₂]))) := by
    simp [DateTime.shortText, Date.shortText, htime, natText]
  have htrim : trimChars (t.shortText sep).toList = (t.shortText sep).toList := by
    obtain ⟨d, ds, hds⟩ := List.exists_cons_of_ne_nil (Nat.toDigits_ne_nil (n := t.date.year))
    have hfirst : d.isDigit = true := isDigit_of_mem_toDigits d (hds ▸ List.mem_cons_self)
    apply trimChars_of_ends
    · simp [hchars, hds, isBlank_of_isDigit_ascii hfirst]
    · have hback : (t.shortText sep).toList =
          (t.date.shortText ++ sep).toList ++ [h₁, h₂, ':', n₁, n₂, ':', s₁] ++ [s₂] := by
        simp [DateTime.shortText, htime]
      simp [hback, isBlank_of_isDigit_ascii hlast]
  have hzone : s₂ ≠ 'Z' := ne_of_isDigit hlast (by decide)
  simp only [Typed.toMoment, Typed.text, Value.text, htrim]
  rw [hchars]
  simp [hzone, DateTime.ofChars?_eq_none hlength]

end EntityQuery
