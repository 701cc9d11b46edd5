import EntityQuery.Proofs.IntegerReading

/-!
# Integers and times of day are not bounded

Encoding under a type of integers or times of day asks whether a value is an integer or a time of
day, and not whether the type has room for it: it writes the integer or the fields of the time as
they are, and reports all other values as what cannot be cast (`encode_unbounded`). An integer of a
byte may be 256, and a time of day may have 25 hours.
-/

namespace EntityQuery

open Number Text Typed

namespace Codec

/-- The literal of an integer. -/
def integerLiteralText (c : Codec) (h : Hint) (n : Int) : String :=
  integerText n ++ if h = .int64 ∧ c ≠ .odata4 then "L" else ""

/-- An integer in a body: a text, but for the longest integers of version 4. -/
def integerBody (c : Codec) (h : Hint) (n : Int) : Value :=
  if h = .int64 ∧ c = .odata4 then .int n else .str (integerText n)

/-- The literal of a time of day. -/
def clockLiteralText (c : Codec) (t : Clock) : String :=
  if c = .odata4 then
    paddedText 2 t.hour ++ ":" ++ paddedText 2 t.minute ++ ":" ++ paddedText 2 (t.second.getD 0)
  else t.duration

/-- The name of the type that times of day are cast to. -/
def clockTypeName (c : Codec) : String := if c = .odata4 then "TimeOfDay" else Hint.time.name

variable {c : Codec} {type : DataType} {declared : Option String} {v : Value}

/-- Under a type of integers a value is written as the integer that it is, or reported. -/
structure WritesInteger (c : Codec) (v : Value) (type : DataType) (declared : Option String) :
    Prop where
  written : ∀ n, v.IsInteger n →
    c.encode (.value v) type declared = .ok (c.integerLiteralText (c.hint type declared) n) ∧
      c.encodeForBody (.value v) type declared = .ok (c.integerBody (c.hint type declared) n)
  reported : (∀ n, ¬v.IsInteger n) →
    c.encode (.value v) type declared = .error (.cast v.shown (c.hint type declared).name) ∧
      c.encodeForBody (.value v) type declared =
        .error (.cast v.shown (c.hint type declared).name)

/-- As a time of day a text is written in the fields that it has, or as it is if it begins as a
duration does and the codec writes durations. All other values are reported. -/
structure WritesClock (c : Codec) (v : Value) (type : DataType) (declared : Option String) :
    Prop where
  written : ∀ s t, v = .str s → ¬(c ≠ .odata4 ∧ startsWith "PT" s = true) → IsClock (trim s) t →
    c.encode (.value v) type declared = .ok (c.clockLiteralText t)
  copied : ∀ s, v = .str s → c ≠ .odata4 ∧ startsWith "PT" s = true →
    c.encode (.value v) type declared = .ok s
  reported : (∀ s, v = .str s →
      ¬(c ≠ .odata4 ∧ startsWith "PT" s = true) ∧ ∀ t, ¬IsClock (trim s) t) →
    c.encode (.value v) type declared = .error (.cast v.shown c.clockTypeName)
  body : c.encodeForBody (.value v) type declared =
    .str <$> c.encode (.value v) type declared

theorem odataLiteral_integerHint {h : Hint} (hh : h ∈ integerHints) (c : Codec) (v : Value) :
    c.odataLiteral h (.value v) = cast v.shown h.name (Typed.toInteger (.value v)) >>= fun n =>
      pure (c.integerLiteralText h n) := by
  simp only [integerHints, List.mem_cons, List.not_mem_nil, or_false] at hh
  rcases hh with rfl | rfl | rfl | rfl | rfl
  · by_cases hc : c = .odata4 <;> simp [odataLiteral, integerLiteralText, hc, Typed.shown]
  all_goals simp [odataLiteral, integerLiteralText, Typed.shown]

theorem encodeForBody_integerHint (hc : c ≠ .plain) (hv : v ≠ .null)
    (hh : c.hint type declared ∈ integerHints) : c.encodeForBody (.value v) type declared =
      cast v.shown (c.hint type declared).name (Typed.toInteger (.value v)) >>= fun n =>
        pure (c.integerBody (c.hint type declared) n) := by
  simp only [integerHints, List.mem_cons, List.not_mem_nil, or_false] at hh
  cases c with
  | plain => exact absurd rfl hc
  | odata2 | odata4 =>
    cases v with
    | null => exact absurd rfl hv
    | _ =>
      rcases hh with hh | hh | hh | hh | hh <;> simp [encodeForBody, hh, integerBody, Typed.shown]

theorem writesInteger (hc : c ≠ .plain) (hv : v ≠ .null)
    (hh : c.hint type declared ∈ integerHints) : c.WritesInteger v type declared := by
  have hencode := (encode_of_ne_null hc hv).trans (odataLiteral_integerHint hh c v)
  have hbody := encodeForBody_integerHint hc hv hh
  constructor
  · intro n hn
    rw [hencode, hbody, toInteger_eq_ok_iff.2 hn]
    exact ⟨rfl, rfl⟩
  · intro hnone
    cases hread : Typed.toInteger (.value v) with
    | ok n => exact absurd (toInteger_eq_ok_iff.1 hread) (hnone n)
    | error e =>
      rw [hencode, hbody, hread,
        cast_of_error fun m he => toInteger_ne_infinite (.value v) m (he ▸ hread)]
      exact ⟨rfl, rfl⟩

/-- What is not copied is read as a time of day. -/
theorem encode_clock (hc : c ≠ .plain) (hv : v ≠ .null) (hh : c.hint type declared = .time)
    (hlead : ∀ s, v = .str s → ¬(c ≠ .odata4 ∧ startsWith "PT" s = true)) :
    c.encode (.value v) type declared =
      cast v.shown c.clockTypeName (Typed.toClock (.value v)) >>= fun t =>
        pure (c.clockLiteralText t) := by
  rw [encode_of_ne_null hc hv, hh]
  by_cases hc4 : c = .odata4
  · subst hc4
    rfl
  · have htime : encodeTime (.value v) = (do pure (← Typed.toClock (.value v)).duration) := by
      cases v with
      | str s =>
        unfold encodeTime
        dsimp only
        rw [if_neg fun hs => hlead s rfl ⟨hc4, hs⟩]
      | _ => rfl
    simp only [odataLiteral, if_neg hc4, clockTypeName, clockLiteralText, htime]
    exact cast_bind_pure ..

theorem encode_durationText (hc : c ≠ .plain) (hc4 : c ≠ .odata4)
    (hh : c.hint type declared = .time) {s : String} (hs : startsWith "PT" s = true) :
    c.encode (.value (.str s)) type declared = .ok s := by
  have hnull : Value.str s ≠ .null := nofun
  rw [encode_of_ne_null hc hnull, hh]
  simp only [odataLiteral, if_neg hc4, encodeTime, if_pos hs]
  rfl

theorem encodeForBody_time (hc : c ≠ .plain) (hv : v ≠ .null)
    (hh : c.hint type declared = .time) : c.encodeForBody (.value v) type declared =
      .str <$> c.encode (.value v) type declared := by
  rw [encode_of_ne_null hc hv]
  cases c with
  | plain => exact absurd rfl hc
  | odata2 | odata4 =>
    cases v with
    | null => exact absurd rfl hv
    | _ => simp [encodeForBody, hh]

theorem writesClock (hc : c ≠ .plain) (hv : v ≠ .null) (hh : c.hint type declared = .time)
    (hseconds : ∀ s, v = .str s → ¬HasEndlessSeconds (trim s)) :
    c.WritesClock v type declared := by
  refine ⟨?_, ?_, ?_, encodeForBody_time hc hv hh⟩
  · rintro s t rfl hlead ht
    have hread : ∀ r, Value.str s = .str r → ¬(c ≠ .odata4 ∧ startsWith "PT" r = true) := by
      rintro _ ⟨⟩
      exact hlead
    rw [encode_clock hc hv hh hread, toClock_of_isClock ht]
    rfl
  · rintro s rfl ⟨hc4, hlead⟩
    exact encode_durationText hc hc4 hh hlead
  · intro hnone
    obtain ⟨e, he, hread⟩ : ∃ e, (∀ m, e ≠ .codec .infinite m) ∧
        Typed.toClock (.value v) = .error e := by
      by_cases hstr : ∃ s, v = .str s
      · obtain ⟨s, rfl⟩ := hstr
        rcases toClock_cases s with ⟨t, ht⟩ | hendless | hfault
        · exact absurd ht ((hnone s rfl).2 t)
        · exact absurd hendless (hseconds s rfl)
        · exact hfault
      · exact exists_toClock_error (not_exists.1 hstr)
    rw [encode_clock hc hv hh fun s hs => (hnone s hs).1, hread, cast_of_error he]
    rfl

/-- A number of a body is reported as such, unless an integer is beyond all 64-bit numbers. -/
theorem reported_number (hc : c ≠ .plain) (hv : v ≠ .null)
    (hh : c.hint type declared = .single ∨ c.hint type declared = .double)
    (hfinite : c = .odata4 → ∀ n negative, v = .int n → Binary64.ofInt n ≠ .infinite negative)
    {e : CodecFault} (he : c.encodeForBody (.value v) type declared = .error e) :
    e = .cast v.shown (c.hint type declared).name := by
  cases c with
  | plain => exact absurd rfl hc
  | odata2 =>
    obtain ⟨mark, hbody⟩ : ∃ mark, odata2.encodeForBody (.value v) type declared =
        cast v.shown (odata2.hint type declared).name (Typed.numberText (.value v)) >>= fun t =>
          pure (.str (t ++ mark)) := by
      cases v with
      | null => exact absurd rfl hv
      | _ =>
        rcases hh with hh | hh
        · exact ⟨"f", by simp [encodeForBody, odataLiteral, hh, Typed.shown]⟩
        · exact ⟨"d", by simp [encodeForBody, odataLiteral, hh, Typed.shown]⟩
    rcases Except.bind_eq_error_iff.1 (hbody ▸ he) with he | ⟨_, -, he⟩
    · exact eq_of_cast_error (numberText_ne_infinite _) he
    · cases he
  | odata4 =>
    have hbody : odata4.encodeForBody (.value v) type declared =
        cast v.shown (odata4.hint type declared).name (Typed.toFloat (.value v)) >>= fun x =>
          pure (.float x) := by
      cases v with
      | null => exact absurd rfl hv
      | _ => rcases hh with hh | hh <;> simp [encodeForBody, hh, Typed.shown]
    rcases Except.bind_eq_error_iff.1 (hbody ▸ he) with he | ⟨_, -, he⟩
    · exact eq_of_cast_error (toFloat_ne_infinite (hfinite rfl)) he
    · cases he

/-- Whatever a value is, it is written without a bound or reported as what cannot be cast: integers
as they are, times of day in the fields they have. Only null is written as itself. -/
theorem encode_unbounded (hc : c ≠ .plain) (v : Value) (type : DataType)
    (declared : Option String) :
    (v = .null → c.encode (.value v) type declared = .ok "null" ∧
      c.encodeForBody (.value v) type declared = .ok .null) ∧
    (v ≠ .null → (c.hint type declared ∈ integerHints → c.WritesInteger v type declared) ∧
      (c.hint type declared = .time → (∀ s, v = .str s → ¬HasEndlessSeconds (trim s)) →
        c.WritesClock v type declared) ∧
      (c.hint type declared = .single ∨ c.hint type declared = .double →
        (c = .odata4 → ∀ n negative, v = .int n → Binary64.ofInt n ≠ .infinite negative) →
        ∀ e, c.encodeForBody (.value v) type declared = .error e →
          e = .cast v.shown (c.hint type declared).name)) := by
  constructor
  · rintro rfl
    cases c with
    | plain => exact absurd rfl hc
    | odata2 | odata4 => exact ⟨rfl, rfl⟩
  · intro hv
    exact ⟨writesInteger hc hv, writesClock hc hv,
      fun hh hfinite _ => reported_number hc hv hh hfinite⟩

/-- Neither 25 hours nor 61 minutes are too many for a time of day. -/
theorem encode_unbounded_lateHour :
    odata4.encode (.value (.str "25:61")) .time none = .ok "25:61:00" := by
  have hhint : odata4.hint .time none = .time := by decide
  have htrim : trim "25:61" = join ":" ["25", "61"] := by decide
  have hfields : IsClock (trim "25:61") ⟨25, 61, none⟩ := by
    rw [htrim]
    exact .minutes (by decide) (by decide) (by decide)
  have hseconds : ∀ s, Value.str "25:61" = .str s → ¬HasEndlessSeconds (trim s) := by
    rintro _ ⟨⟩ hendless
    have hread := toClock_of_hasEndlessSeconds hendless
    rw [toClock_of_isClock hfields] at hread
    cases hread
  obtain ⟨-, hall⟩ := encode_unbounded (c := odata4) (by decide) (.str "25:61") .time none
  obtain ⟨-, hclock, -⟩ := hall nofun
  exact (hclock hhint hseconds).written _ _ rfl (by decide) hfields

/-- An integer of a byte may be 256: it is neither reported nor written as one that a byte holds. -/
theorem encode_byte_unbounded :
    ¬((∃ shown name, odata2.encode (.value (.int 256)) .integer (some "Edm.Byte") =
        .error (.cast shown name)) ∨
      ∃ n, 0 ≤ n ∧ n ≤ 255 ∧ odata2.encode (.value (.int 256)) .integer (some "Edm.Byte") =
        .ok (integerText n)) := by
  have hhint : odata2.hint .integer (some "Edm.Byte") = .byte := by decide
  have hnull : Value.int 256 ≠ .null := nofun
  have hencode : odata2.encode (.value (.int 256)) .integer (some "Edm.Byte") =
      .ok (integerText 256) := by
    rw [encode_of_ne_null (by decide) hnull, hhint]
    rfl
  rw [hencode]
  rintro (⟨_, _, h⟩ | ⟨n, hn, hbyte, h⟩)
  · cases h
  · have htext := Except.ok.inj h
    rw [integerText, integerText, if_neg (by decide), if_neg (by omega)] at htext
    have habs := natText_injective htext
    omega

end Codec

end EntityQuery
