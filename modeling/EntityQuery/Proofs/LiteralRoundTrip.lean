import EntityQuery.Proofs.ClockReading
import EntityQuery.Proofs.LiteralReading
import EntityQuery.Proofs.Outcome

/-!
# Literals survive a URL

A value that a literal can carry under its remote type is read back as it was written: by the codec
that wrote it, and in version 4 also from the literals of version 2 (`decode_odataLiteral`).
Version 2 recognises types by tags and quotes. Version 4 leaves them out, so its bare literals must
not look like any of these: an identifier in hexadecimal digits, a moment with a `T` and a time of
day do not.
-/

namespace EntityQuery

open Calendar Number Text

namespace Codec

/-- The characters of an identifier: hexadecimal digits and hyphens. -/
def identifierChars : List Char := "0123456789ABCDEFabcdef-".toList

/-- The remote types of integers. -/
def integerHints : List Hint := [.int64, .int32, .int16, .byte, .sbyte]

/-- The values that a literal carries under a remote type. Version 4 tells bare identifiers and
moments by their characters, has no minutes without seconds and no moment without offset. -/
inductive Carries (c : Codec) : Hint → Value → Prop where
  | string (s : String) : Carries c .string (.str s)
  | identifier {s : String} (h : c = .odata4 → ∀ ch ∈ s.toList, ch ∈ identifierChars) :
      Carries c .guid (.str s)
  | offset {s : String} (h : c = .odata4 → 'T' ∈ s.toList ∧ '\'' ∉ s.toList ∧ trim s = s) :
      Carries c .dateTimeOffset (.str s)
  | integer {h : Hint} {n : Int} (hh : h ∈ integerHints)
      (hlength : (Nat.toDigits 10 n.natAbs).length ≤ maxDigits) : Carries c h (.int n)
  | boolean (b : Bool) : Carries c .boolean (.bool b)
  | seconds {s : String} (hs : IsSecondText s) : Carries c .time (.str s)
  | minutes {s : String} (hc : c ≠ .odata4) (hs : IsMinuteText s) : Carries c .time (.str s)
  | moment {s : String} (hc : c ≠ .odata4) (hs : IsMomentText s) : Carries c .dateTime (.str s)

theorem Carries.ne_null {c : Codec} {h : Hint} {v : Value} (hv : c.Carries h v) : v ≠ .null := by
  cases hv <;> exact nofun

theorem Carries.ne_dateTime {h : Hint} {v : Value} (hv : odata4.Carries h v) : h ≠ .dateTime := by
  cases hv with
  | integer hh _ =>
    rintro rfl
    exact absurd hh (by decide)
  | minutes hc _ | moment hc _ => exact absurd rfl hc
  | string _ | identifier _ | offset _ | boolean _ | seconds _ => exact nofun

section Reading

variable {c d : Codec} {type : DataType} {declared : Option String}

/-- The codecs see the same type, except for moments without offset. -/
theorem hint_odata4 (h : d.hint type declared ≠ .dateTime) :
    odata4.hint type declared = d.hint type declared := by
  unfold hint at h ⊢
  by_cases hof : Hint.of type declared = .dateTime
  · rw [hof] at h ⊢
    cases d with
    | odata4 => rfl
    | plain | odata2 => exact absurd rfl h
  · split
    · exact absurd ‹_› hof
    · split
      · exact absurd ‹_› hof
      · rfl

theorem decode_token (hd : d ≠ .plain) {s : String} (hs : isTokenText s = true) (hnull : s ≠ "null")
    (hclock : ¬(d = .odata4 ∧ d.hint type declared = .time ∧ isClockText s.toList = true)) :
    d.decode s type declared = ofLiteralText (d.hint type declared) s :=
  decode_bare hd (trimChars_of_isTokenText hs) (not_mem_of_isTokenText hs) hnull hclock

theorem decode_identifier (hd : d ≠ .plain) (hhint : d.hint type declared = .guid) {s : String}
    (hs : ∀ ch ∈ s.toList, ch ∈ identifierChars) : d.decode s type declared = .ok (.str s) := by
  have hchars : identifierChars.all isTokenChar = true := by decide
  have htoken : isTokenText s = true :=
    List.all_eq_true.2 fun ch hch => List.all_eq_true.1 hchars ch (hs ch hch)
  have hnull : s ≠ "null" := by
    rintro rfl
    exact absurd (hs 'n' (by decide)) (by decide)
  rw [decode_token hd htoken hnull (by simp [hhint]), hhint]
  rfl

theorem decode_offset (hd : d ≠ .plain) (hhint : d.hint type declared = .dateTimeOffset)
    {s : String} (htime : 'T' ∈ s.toList) (hquote : '\'' ∉ s.toList) (htrim : trim s = s) :
    d.decode s type declared = .ok (.str s) := by
  have hchars : trimChars s.toList = s.toList := by
    rw [← String.toList_ofList (l := trimChars s.toList), ← trim, htrim]
  have hnull : s ≠ "null" := by
    rintro rfl
    exact absurd htime (by decide)
  rw [decode_bare hd hchars hquote hnull (by simp [hhint]), hhint]
  rfl

theorem withoutSuffix_append {marks : List Char} {c : Char} (hc : c ∈ marks) (s : String) :
    withoutSuffix marks (s ++ String.ofList [c]) = s := by
  simp [withoutSuffix, hc]

theorem withoutSuffix_of_forall {marks : List Char} {s : String} (h : ∀ c ∈ s.toList, c ∉ marks) :
    withoutSuffix marks s = s := by
  unfold withoutSuffix
  split
  · rename_i c r hr
    exact if_neg (h c (List.mem_reverse.1 (hr ▸ List.mem_cons_self)))
  · rfl

theorem mem_integerText {n : Int} {ch : Char} (h : ch ∈ (integerText n).toList) :
    ch.isDigit = true ∨ ch = '-' := by
  rw [integerText] at h
  split at h
  · rw [String.toList_append, List.mem_append] at h
    exact h.elim (fun h => .inr (List.mem_singleton.1 h)) fun h => .inl (isDigit_of_mem_natText h)
  · exact .inl (isDigit_of_mem_natText h)

theorem integerText_ne_null (n : Int) : integerText n ≠ "null" := by
  intro h
  have hmem : 'n' ∈ (integerText n).toList := by
    rw [h]
    decide
  exact absurd (mem_integerText hmem) (by decide)

theorem decode_integerText (hd : d ≠ .plain) {h : Hint} (hh : h ∈ integerHints)
    (hhint : d.hint type declared = h) (n : Int) :
    d.decode (integerText n) type declared = integerLiteral h (integerText n) := by
  have hmarks : ∀ ch ∈ (integerText n).toList, ch ∉ ['L', 'l'] := by
    intro ch hch hmem
    rcases mem_integerText hch with hdigit | rfl
    · simp only [List.mem_cons, List.not_mem_nil, or_false] at hmem
      rcases hmem with rfl | rfl <;> exact absurd hdigit (by decide)
    · exact absurd hmem (by decide)
  have htime : h ≠ .time := by
    rintro rfl
    exact absurd hh (by decide)
  rw [decode_token hd (isTokenText_integerText n) (integerText_ne_null n) (by simp [hhint, htime]),
    hhint]
  simp only [integerHints, List.mem_cons, List.not_mem_nil, or_false] at hh
  rcases hh with rfl | rfl | rfl | rfl | rfl <;>
    simp only [ofLiteralText, withoutSuffix_of_forall hmarks]

theorem decode_integerText_suffix (hd : d ≠ .plain) (hhint : d.hint type declared = .int64)
    (n : Int) :
    d.decode (integerText n ++ "L") type declared = integerLiteral .int64 (integerText n) := by
  have htoken : isTokenText (integerText n ++ "L") = true := by
    rw [isTokenText_append, isTokenText_integerText]
    rfl
  have hnull : integerText n ++ "L" ≠ "null" := by
    intro h
    have hmem : 'L' ∈ "null".toList := by
      rw [← h]
      simp
    exact absurd hmem (by decide)
  rw [decode_token hd htoken hnull (by simp [hhint]), hhint]
  simp only [ofLiteralText, withoutSuffix_append (by decide : 'L' ∈ ['L', 'l'])]

theorem decode_boolean (hd : d ≠ .plain) (hhint : d.hint type declared = .boolean) (b : Bool) :
    d.decode (if b then "true" else "false") type declared = .ok (.bool b) := by
  have htoken : isTokenText (if b then "true" else "false") = true := by cases b <;> decide
  have hnull : (if b then "true" else "false") ≠ "null" := by cases b <;> decide
  have hvalue : (lower (if b then "true" else "false") == "true") = b := by cases b <;> decide
  rw [decode_token hd htoken hnull (by simp [hhint]), hhint, ofLiteralText, hvalue]

theorem isClockText_clockText {h m n : Nat} (hh : h < 100) (hm : m < 100) (hn : n < 100) :
    isClockText (clockText h m (some n)).toList = true := by
  obtain ⟨a, b, hhour, hspells⟩ := exists_two hh
  obtain ⟨c, d, hminute, hspells'⟩ := exists_two hm
  obtain ⟨e, f, hsecond, hspells''⟩ := exists_two hn
  have hchars : (clockText h m (some n)).toList = [a, b, ':', c, d, ':', e, f] := by
    simp [clockText, hhour, hminute, hsecond]
  have hdigits := ((hspells.append hspells').append hspells'').digits
  rw [hchars, isClockText]
  exact List.all_eq_true.2 fun x hx => isDecimal_of_isDigit_ascii (hdigits x hx)

theorem decode_clockText (hhint : odata4.hint type declared = .time) {h m n : Nat} (hh : h < 100)
    (hm : m < 100) (hn : n < 100) :
    odata4.decode (clockText h m (some n)) type declared = .ok (.str (clockText h m (some n))) := by
  simp [decode, hhint, trimChars_of_forall isBlank_of_mem_clockText, isClockText_clockText hh hm hn]

theorem decode_duration (hd : d ≠ .plain) (hhint : d.hint type declared = .time) {h m : Nat}
    {s : Option Nat} (hh : h < 100) (hm : m < 100) (hs : ∀ n ∈ s, n < 100) :
    d.decode (Typed.Clock.duration ⟨h, m, s.map Int.ofNat⟩) type declared =
      .ok (.str (clockText h m s)) := by
  have hmem : 'P' ∈ (Typed.Clock.duration ⟨h, m, s.map Int.ofNat⟩).toList := by
    simp [Typed.Clock.duration]
  have hclock := isClockText_of_mem hmem (by decide) (by decide)
  have hnull : Typed.Clock.duration ⟨h, m, s.map Int.ofNat⟩ ≠ "null" := by
    intro hnull
    rw [hnull] at hmem
    exact absurd hmem (by decide)
  rw [decode_token hd (isTokenText_duration _) hnull (by simp [hclock]), hhint, ofLiteralText,
    decodeTime?_duration hh hm hs]
  rfl

end Reading

section RoundTrip

variable {c d : Codec} {type : DataType} {declared : Option String}

theorem identifier_roundTrip (hd : d ≠ .plain) (hhint : d.hint type declared = .guid) {s : String}
    (hs : c = .odata4 → ∀ ch ∈ s.toList, ch ∈ identifierChars) :
    (c.odataLiteral .guid (.value (.str s)) >>= fun l => d.decode l type declared) =
      .ok (.str s) := by
  by_cases hc : c = .odata4
  · have hliteral : c.odataLiteral .guid (.value (.str s)) = .ok s := by
      simp only [odataLiteral, if_pos hc, Typed.text, Value.text]
    rw [Except.bind_of_ok _ hliteral, decode_identifier hd hhint (hs hc)]
  · have htag : "guid'" = "guid" ++ "'" := by decide
    have hliteral : c.odataLiteral .guid (.value (.str s)) = .ok ("guid" ++ "'" ++ s ++ "'") := by
      simp only [odataLiteral, if_neg hc, Typed.text, Value.text, htag]
    rw [Except.bind_of_ok _ hliteral, decode_tagged hd (by decide), hhint]
    rfl

theorem offsetText_of_mem {s : String} (htime : 'T' ∈ s.toList) (htrim : trim s = s) :
    odata4.offsetText (.value (.str s)) = s := by
  have hcontains : contains "T" s = true := by
    obtain ⟨a, b, hs, ha⟩ := List.eq_append_cons_of_mem htime
    simp [contains, hs, cutChars?_append ha]
  simp [offsetText, Typed.text, Value.text, htrim, hcontains]

theorem offset_roundTrip (hd : d ≠ .plain) (hhint : d.hint type declared = .dateTimeOffset)
    {s : String} (hs : c = .odata4 → 'T' ∈ s.toList ∧ '\'' ∉ s.toList ∧ trim s = s) :
    (c.odataLiteral .dateTimeOffset (.value (.str s)) >>= fun l => d.decode l type declared) =
      .ok (.str s) := by
  by_cases hc : c = .odata4
  · obtain ⟨htime, hquote, htrim⟩ := hs hc
    have hliteral : c.odataLiteral .dateTimeOffset (.value (.str s)) = .ok s := by
      simp only [odataLiteral, if_pos hc]
      rw [hc, offsetText_of_mem htime htrim]
    rw [Except.bind_of_ok _ hliteral, decode_offset hd hhint htime hquote htrim]
  · have htag : "datetimeoffset'" = "datetimeoffset" ++ "'" := by decide
    have htext : c.offsetText (.value (.str s)) = s := by
      cases c with
      | odata4 => exact absurd rfl hc
      | plain | odata2 => simp only [offsetText, Typed.text, Value.text]
    have hliteral : c.odataLiteral .dateTimeOffset (.value (.str s)) =
        .ok ("datetimeoffset" ++ "'" ++ s ++ "'") := by
      simp only [odataLiteral, if_neg hc, htext, htag]
    rw [Except.bind_of_ok _ hliteral, decode_tagged hd (by decide), hhint]
    rfl

/-- Only 64 bits have a suffix, and only in version 2. -/
theorem odataLiteral_integer (c : Codec) {h : Hint} (hh : h ∈ integerHints) (n : Int) :
    c.odataLiteral h (.value (.int n)) = .ok (integerText n) ∨
      h = .int64 ∧ c.odataLiteral h (.value (.int n)) = .ok (integerText n ++ "L") := by
  simp only [integerHints, List.mem_cons, List.not_mem_nil, or_false] at hh
  rcases hh with rfl | rfl | rfl | rfl | rfl
  · by_cases hc : c = .odata4
    · subst hc
      exact .inl (congrArg Except.ok (String.append_empty (s := integerText n)))
    · exact .inr ⟨rfl, by simp only [odataLiteral, if_neg hc]; rfl⟩
  all_goals exact .inl rfl

theorem decode_odataLiteral_integer (hd : d ≠ .plain) {h : Hint} (hh : h ∈ integerHints)
    (hhint : d.hint type declared = h) (n : Int) :
    (c.odataLiteral h (.value (.int n)) >>= fun l => d.decode l type declared) =
      integerLiteral h (integerText n) := by
  rcases odataLiteral_integer c hh n with hliteral | ⟨rfl, hliteral⟩
  · rw [Except.bind_of_ok _ hliteral, decode_integerText hd hh hhint]
  · rw [Except.bind_of_ok _ hliteral, decode_integerText_suffix hd hhint]

/-- A time of day is written bare by version 4, which wants the seconds, and else as a duration. -/
theorem clock_roundTrip (hd : d ≠ .plain) (hhint : d.hint type declared = .time) {h m : Nat}
    {s : Option Nat} (hh : h < 100) (hm : m < 100) (hs : ∀ n ∈ s, n < 100)
    (hc : c = .odata4 → d = .odata4 ∧ s.isSome) :
    (c.odataLiteral .time (.value (.str (clockText h m s))) >>= fun l => d.decode l type declared) =
      .ok (.str (clockText h m s)) := by
  have hclock := toClock_clockText hh hm hs
  by_cases hc4 : c = .odata4
  · obtain ⟨rfl, hsome⟩ := hc hc4
    obtain ⟨n, rfl⟩ := Option.isSome_iff_exists.1 hsome
    have hliteral : c.odataLiteral .time (.value (.str (clockText h m (some n)))) =
        .ok (clockText h m (some n)) := by
      simp only [odataLiteral, if_pos hc4, hclock, cast]
      simp [clockText, two, String.append_assoc]
    rw [Except.bind_of_ok _ hliteral, decode_clockText hhint hh hm (hs n rfl)]
  · have hduration : startsWith "PT" (clockText h m s) = false := by
      rw [startsWith, Option.isSome_eq_false_iff, Option.isNone_iff_eq_none,
        Option.eq_none_iff_forall_ne_some]
      intro r hr
      have hmem : 'P' ∈ (clockText h m s).toList := by
        rw [after?_eq_some.1 hr]
        exact List.mem_cons_self
      exact absurd (mem_clockText hmem) (by decide)
    have hliteral : c.odataLiteral .time (.value (.str (clockText h m s))) =
        .ok (Typed.Clock.duration ⟨h, m, s.map Int.ofNat⟩) := by
      simp only [odataLiteral, if_neg hc4, encodeTime, hduration, Bool.false_eq_true, if_false,
        hclock]
      rfl
    rw [Except.bind_of_ok _ hliteral, decode_duration hd hhint hh hm hs]

theorem odataLiteral_moment {s : String} {t : DateTime}
    (hmoment : Typed.toMoment (.value (.str s)) = .ok t) :
    c.odataLiteral .dateTime (.value (.str s)) =
      .ok ("datetime" ++ "'" ++ t.shortText "T" ++ "'") := by
  have htag : "datetime'" = "datetime" ++ "'" := by decide
  simp only [odataLiteral, hmoment, cast, htag]
  rfl

/-- A moment is read as what its literal has of it. -/
theorem moment_roundTrip (hd : d ≠ .plain) (hhint : d.hint type declared = .dateTime) {s : String}
    {t : DateTime} (hmoment : Typed.toMoment (.value (.str s)) = .ok t)
    (hyear : 1000 ≤ t.date.year) :
    (c.odataLiteral .dateTime (.value (.str s)) >>= fun l => d.decode l type declared) =
      .ok (.str (t.shortText " ")) := by
  rw [Except.bind_of_ok _ (odataLiteral_moment hmoment), decode_tagged hd (by decide), hhint]
  simp only [ofLiteralText, Typed.toMoment_written hyear (rfl : "T".toList = ['T']), cast]
  rfl

/-- A literal is read as the value that it was written for. -/
theorem decode_odataLiteral (hd : d ≠ .plain) (hcd : c = .odata4 → d = .odata4) {h : Hint}
    (hhint : d.hint type declared = h) {v : Value} (hv : d.Carries h v) :
    (c.odataLiteral h (.value v) >>= fun l => d.decode l type declared) = .ok v := by
  cases hv with
  | string s => exact decode_quotedLiteral hd s
  | identifier hs => exact identifier_roundTrip hd hhint fun hc => hs (hcd hc)
  | offset hs => exact offset_roundTrip hd hhint fun hc => hs (hcd hc)
  | integer hh hlength =>
    rw [decode_odataLiteral_integer hd hh hhint, integerLiteral, integerOfText?_integerText hlength]
  | boolean b => exact decode_boolean hd hhint b
  | seconds hs =>
    obtain ⟨h, hlt, m, mlt, n, nlt, rfl⟩ := hs.exists_clockText
    exact clock_roundTrip hd hhint hlt mlt (by simpa using nlt) fun hc => ⟨hcd hc, rfl⟩
  | minutes hc hs =>
    obtain ⟨h, hlt, m, mlt, rfl⟩ := hs.exists_clockText
    exact clock_roundTrip hd hhint hlt mlt nofun fun hc4 => absurd (hcd hc4) hc
  | moment _ hs =>
    obtain ⟨t, hyear, hfraction, hoffset, rfl⟩ := hs
    exact moment_roundTrip hd hhint (Typed.toMoment_shortText hyear hfraction hoffset rfl) hyear

theorem encode_of_ne_null (hc : c ≠ .plain) {v : Value} (hv : v ≠ .null) :
    c.encode (.value v) type declared = c.odataLiteral (c.hint type declared) (.value v) := by
  cases c with
  | plain => exact absurd rfl hc
  | odata2 | odata4 =>
    cases v with
    | null => exact absurd rfl hv
    | _ => rfl

theorem decode_encode (hc : c ≠ .plain) (hd : d ≠ .plain) (hcd : c = .odata4 → d = .odata4)
    (hhint : d.hint type declared = c.hint type declared) {v : Value}
    (hv : d.Carries (c.hint type declared) v) :
    (c.encode (.value v) type declared >>= fun l => d.decode l type declared) = .ok v := by
  rw [encode_of_ne_null hc hv.ne_null]
  exact decode_odataLiteral hd hcd hhint hv

/-- A value is read back from its literal of version 2. -/
theorem decode_encode_odata2 {v : Value} (hv : odata2.Carries (odata2.hint type declared) v) :
    (odata2.encode (.value v) type declared >>= fun l => odata2.decode l type declared) = .ok v :=
  decode_encode (by decide) (by decide) (by decide) rfl hv

theorem decode_encode_odata2_quotes :
    odata2.Carries (odata2.hint .string none) (.str "null''") ∧
      (odata2.encode (.value (.str "null''")) .string none >>=
        fun l => odata2.decode l .string none) = .ok (.str "null''") ∧
      odata2.Carries (odata2.hint .time none) (.str "23:05") ∧
      (odata2.encode (.value (.str "23:05")) .time none >>=
        fun l => odata2.decode l .time none) = .ok (.str "23:05") := by
  have htext : odata2.Carries (odata2.hint .string none) (.str "null''") := .string _
  have htime : odata2.Carries (odata2.hint .time none) (.str "23:05") :=
    .minutes (by decide) ⟨"23", "05", by decide, by decide, by decide⟩
  exact ⟨htext, decode_encode_odata2 htext, htime, decode_encode_odata2 htime⟩

/-- A value is read back by version 4 from the literal of either version, under the type that the
literal was written for. -/
theorem decode_encode_odata4 (hc : c ≠ .plain) {v : Value}
    (hv : odata4.Carries (c.hint type declared) v) :
    (c.encode (.value v) type declared >>= fun l => odata4.decode l type declared) = .ok v :=
  decode_encode hc (by decide) (fun _ => rfl) (hint_odata4 hv.ne_dateTime) hv

theorem decode_encode_odata4_moment :
    odata4.Carries (odata4.hint .timestamp none) (.str "2024-02-29T10:30:00Z") ∧
      (odata4.encode (.value (.str "2024-02-29T10:30:00Z")) .timestamp none >>=
        fun l => odata4.decode l .timestamp none) = .ok (.str "2024-02-29T10:30:00Z") ∧
      odata4.Carries (odata2.hint .timestamp (some "Edm.DateTimeOffset"))
        (.str "2024-02-29T10:30:00Z") ∧
      (odata2.encode (.value (.str "2024-02-29T10:30:00Z")) .timestamp (some "Edm.DateTimeOffset")
        >>= fun l => odata4.decode l .timestamp (some "Edm.DateTimeOffset")) =
          .ok (.str "2024-02-29T10:30:00Z") := by
  have hmoment : odata4.Carries .dateTimeOffset (.str "2024-02-29T10:30:00Z") :=
    .offset fun _ => by decide
  have hnone : odata4.Carries (odata4.hint .timestamp none) (.str "2024-02-29T10:30:00Z") := hmoment
  have hdeclared : odata4.Carries (odata2.hint .timestamp (some "Edm.DateTimeOffset"))
      (.str "2024-02-29T10:30:00Z") := by
    rw [show odata2.hint .timestamp (some "Edm.DateTimeOffset") = .dateTimeOffset by decide]
    exact hmoment
  exact ⟨hnone, decode_encode_odata4 (by decide) hnone, hdeclared,
    decode_encode_odata4 (by decide) hdeclared⟩

theorem decode_encode_of_long (hc : c ≠ .plain) (hd : d ≠ .plain) {h : Hint}
    (hh : h ∈ integerHints) (hhints : c.hint type declared = h ∧ d.hint type declared = h) {n : Nat}
    (hlong : maxDigits < (Nat.toDigits 10 n).length) :
    (c.encode (.value (.int n)) type declared >>= fun l => d.decode l type declared) =
      .error (.cast (quoted (natText n)) h.name) := by
  have htext : integerText n = natText n := by simp [integerText, Int.not_lt.2]
  have hnull : Value.int n ≠ .null := by
    intro he
    cases he
  rw [encode_of_ne_null hc hnull, hhints.1, decode_odataLiteral_integer hd hh hhints.2,
    integerLiteral, htext, integerOfText?_of_long hlong]

/-- An integer whose numeral is longer than any that is read. Here it is written, and refused when it
is read; where such numerals are not written either, the failure comes one step earlier. -/
theorem decode_encode_odata2_long :
    (odata2.encode (.value (.int (10 ^ maxDigits : Nat))) .integer (some "Edm.Int64") >>=
      fun l => odata2.decode l .integer (some "Edm.Int64")) ≠
        .ok (.int (10 ^ maxDigits : Nat)) := by
  rw [decode_encode_of_long (by decide) (by decide) (by decide : Hint.int64 ∈ integerHints)
    (by decide) maxDigits_lt_length]
  exact nofun

/-- The same integer and the same failure in version 4. -/
theorem decode_encode_odata4_long :
    (odata4.encode (.value (.int (10 ^ maxDigits : Nat))) .integer (some "Edm.Int64") >>=
      fun l => odata4.decode l .integer (some "Edm.Int64")) ≠
        .ok (.int (10 ^ maxDigits : Nat)) := by
  rw [decode_encode_of_long (by decide) (by decide) (by decide : Hint.int64 ∈ integerHints)
    (by decide) maxDigits_lt_length]
  exact nofun

end RoundTrip

end Codec

end EntityQuery
