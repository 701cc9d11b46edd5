import EntityQuery.Proofs.ClockLiteral

/-!
# Literals that are read again

The literal of a value is read by the codec that wrote it exactly if the value has what `Rereads`
asks for under its type (`exists_decode_iff_rereads`). Most literals are. What fails are integers
and durations with more digits than are read, moments before the year 1000, whose year is written
in fewer than four digits, an infinite number of version 4, which loses the last letter of `inf`,
and a special value with a diagnosis.
-/

namespace EntityQuery

open Calendar Number Text

namespace Codec

/-- What the literal of a value needs to be read again under its type. -/
def Rereads (c : Codec) (h : Hint) (v : Value) : Prop :=
  match h, v with
  | _, .null => True
  | .none, .int n | .int64, .int n | .int32, .int n | .int16, .int n | .byte, .int n
  | .sbyte, .int n => (Nat.toDigits 10 n.natAbs).length ≤ maxDigits
  | .none, .str s => ¬IsLongInteger (trimChars s.toList)
  | .single, .float x | .double, .float x => c = .odata4 → ∀ negative, x ≠ .infinite negative
  | .single, v | .double, v => ∀ d, Decimal.ofText? v.text = some d → ¬d.IsDiagnosis
  | .dateTime, v => ∀ t, Typed.toMoment v = .ok t → 1000 ≤ t.date.year
  | .time, .str s =>
    c ≠ .odata4 ∧ startsWith "PT" s = true → ¬IsLongDuration (trimChars s.toList)
  | _, _ => True

variable {c : Codec} {type : DataType} {declared : Option String}

/-- Where every text is read under a type, every literal is. -/
theorem exists_decode_of_forall (hc : c ≠ .plain)
    (h : ∀ s, ∃ w, ofLiteralText (c.hint type declared) s = .ok w) (literal : String) :
    ∃ w, c.decode literal type declared = .ok w := by
  rw [decode_eq hc]
  split_ifs
  · exact ⟨_, rfl⟩
  · exact ⟨_, rfl⟩
  · split
    · exact h _
    · exact ⟨_, rfl⟩
    · exact h _

theorem exists_toInteger {h : Hint} (hh : h ∈ integerHints) {v : Value} {literal : String}
    (hliteral : c.odataLiteral h (.value v) = .ok literal) :
    ∃ n, Typed.toInteger (.value v) = .ok n ∧
      (literal = integerText n ∨ h = .int64 ∧ literal = integerText n ++ "L") := by
  simp only [integerHints, List.mem_cons, List.not_mem_nil, or_false] at hh
  rcases hh with rfl | hh
  · obtain ⟨n, hn, hliteral⟩ := Except.bind_eq_ok_iff.1 hliteral
    refine ⟨n, cast_eq_ok_iff.1 hn, ?_⟩
    rw [← Except.ok.inj hliteral]
    split_ifs
    · exact .inl String.append_empty
    · exact .inr ⟨rfl, rfl⟩
  · rcases hh with rfl | rfl | rfl | rfl <;>
    · obtain ⟨n, hn, hliteral⟩ := Except.bind_eq_ok_iff.1 hliteral
      exact ⟨n, cast_eq_ok_iff.1 hn, .inl (Except.ok.inj hliteral).symm⟩

/-- Of all values only integers stand for integers that are too long. -/
theorem length_le_of_toInteger {v : Value} (hv : ∀ m, v ≠ .int m) {n : Int}
    (hn : Typed.toInteger (.value v) = .ok n) :
    (Nat.toDigits 10 n.natAbs).length ≤ maxDigits := by
  cases toInteger_eq_ok_iff.1 hn with
  | int => exact absurd rfl (hv n)
  | float hx =>
    simp only [Binary64.eqInt, Bool.and_eq_true, beq_iff_eq] at hx
    exact length_le_of_truncate? hx.2
  | str hs => exact length_le_of_integerOfText? hs

theorem rereads_of_toInteger {h : Hint} (hh : h ∈ integerHints) {v : Value} {n : Int}
    (hn : Typed.toInteger (.value v) = .ok n) :
    c.Rereads h v ↔ (Nat.toDigits 10 n.natAbs).length ≤ maxDigits := by
  simp only [integerHints, List.mem_cons, List.not_mem_nil, or_false] at hh
  cases v with
  | int m =>
    cases hn
    rcases hh with rfl | rfl | rfl | rfl | rfl <;> rfl
  | null | bool _ | float _ | str _ | list _ | map _ =>
    refine iff_of_true ?_ (length_le_of_toInteger (fun m h => by cases h) hn)
    rcases hh with rfl | rfl | rfl | rfl | rfl <;> trivial

theorem integerLiteral_ok_iff (h : Hint) (n : Int) :
    (∃ w, integerLiteral h (integerText n) = .ok w) ↔
      (Nat.toDigits 10 n.natAbs).length ≤ maxDigits := by
  obtain ⟨lead, hlead, htext⟩ := exists_signed_integerText n
  rw [← isSome_integerOfChars?_iff hlead (isDigits_toDigits _), ← htext, integerLiteral,
    integerOfText?]
  cases integerOfChars? (integerText n).toList <;> simp

theorem decode_integer_iff (hc : c ≠ .plain) {h : Hint} (hh : h ∈ integerHints)
    (hhint : c.hint type declared = h) {v : Value} {literal : String}
    (hliteral : c.odataLiteral h (.value v) = .ok literal) :
    (∃ w, c.decode literal type declared = .ok w) ↔ c.Rereads h v := by
  obtain ⟨n, hn, htext⟩ := exists_toInteger hh hliteral
  rw [rereads_of_toInteger hh hn, ← integerLiteral_ok_iff h]
  rcases htext with rfl | ⟨rfl, rfl⟩
  · rw [decode_integerText hc hh hhint]
  · rw [decode_integerText_suffix hc hhint]

theorem decode_dateTime_iff (hc : c ≠ .plain) (hhint : c.hint type declared = .dateTime)
    {v : Value} (hv : v ≠ .null) {literal : String}
    (hliteral : c.odataLiteral .dateTime (.value v) = .ok literal) :
    (∃ w, c.decode literal type declared = .ok w) ↔ c.Rereads .dateTime v := by
  obtain ⟨t, ht, hliteral⟩ := Except.bind_eq_ok_iff.1 hliteral
  have ht := cast_eq_ok_iff.1 ht
  have htag : "datetime'" = "datetime" ++ "'" := by decide
  have hrereads : c.Rereads .dateTime v ↔ 1000 ≤ t.date.year := by
    cases v with
    | null => exact absurd rfl hv
    | _ => simp [Rereads, ht]
  cases hliteral
  rw [hrereads, htag, decode_tagged hc (by decide), hhint, ofLiteralText]
  by_cases hyear : 1000 ≤ t.date.year
  · rw [Typed.toMoment_written hyear (rfl : "T".toList = ['T'])]
    exact iff_of_true ⟨_, rfl⟩ hyear
  · rw [Typed.toMoment_shortText_of_early "T" (Nat.not_le.1 hyear)]
    refine iff_of_false ?_ hyear
    rintro ⟨w, hw⟩
    cases hw

theorem decode_untyped_iff (hc : c ≠ .plain) (hhint : c.hint type declared = .none) {s : String}
    (hs : isTokenText s = true) (hnull : s ≠ "null") :
    (∃ w, c.decode s type declared = .ok w) ↔ ¬IsLongInteger s.toList := by
  rw [decode_token hc hs hnull (by simp [hhint]), hhint, ofLiteralText,
    trimChars_of_isTokenText hs]
  split_ifs with hnumeral
  · exact numberLiteral_ok_iff hnumeral
  · exact iff_of_true ⟨_, rfl⟩ fun hlong => hnumeral (isNumeral_of_isLongInteger hlong)

theorem decode_none_iff (hc : c ≠ .plain) (hhint : c.hint type declared = .none) {v : Value}
    {literal : String} (hliteral : c.odataLiteral .none (.value v) = .ok literal) :
    (∃ w, c.decode literal type declared = .ok w) ↔ c.Rereads .none v := by
  cases hliteral
  unfold untypedLiteral
  cases v with
  | null | bool _ | list _ | map _ => exact iff_of_true ⟨_, decode_quotedLiteral hc _⟩ trivial
  | int n =>
    have htoken := isTokenText_integerText n
    show (∃ w, c.decode (trim (integerText n)) type declared = .ok w) ↔ _
    rw [trim_of_isTokenText htoken, decode_untyped_iff hc hhint htoken (integerText_ne_null n),
      isLongInteger_integerText_iff, Nat.not_lt]
    rfl
  | float x =>
    have htoken := isTokenText_floatText x
    show (∃ w, c.decode (trim x.text) type declared = .ok w) ↔ _
    rw [trim_of_isTokenText htoken, decode_untyped_iff hc hhint htoken (floatText_ne_null x)]
    exact iff_of_true (not_isLongInteger_floatText x) trivial
  | str s =>
    show (∃ w, c.decode (if isNumeral (trimChars s.toList) = true then trim s else quotedLiteral s)
      type declared = .ok w) ↔ ¬IsLongInteger (trimChars s.toList)
    split_ifs with hnumeral
    · have hchars : (trim s).toList = trimChars s.toList := String.toList_ofList
      rw [← hchars] at hnumeral ⊢
      exact decode_untyped_iff hc hhint (all_of_isNumeral hnumeral) (ne_null_of_isNumeral hnumeral)
    · exact iff_of_true ⟨_, decode_quotedLiteral hc s⟩
        fun hlong => hnumeral (isNumeral_of_isLongInteger hlong)

/-- The marks that are taken off a number. -/
def floatMarks : List Char := ['f', 'F', 'd', 'D']

theorem exists_numberText {h : Hint} (hh : h ∈ [Hint.single, .double]) {v : Value}
    {literal : String} (hliteral : c.odataLiteral h (.value v) = .ok literal) :
    ∃ t, Typed.numberText (.value v) = .ok t ∧ (c = .odata4 ∧ literal = t ∨
      c ≠ .odata4 ∧ ∃ mark ∈ ['f', 'd'], literal = t ++ String.ofList [mark]) := by
  simp only [List.mem_cons, List.not_mem_nil, or_false] at hh
  rcases hh with rfl | rfl <;>
  · obtain ⟨t, ht, hliteral⟩ := Except.bind_eq_ok_iff.1 hliteral
    refine ⟨t, cast_eq_ok_iff.1 ht, ?_⟩
    rw [← Except.ok.inj hliteral]
    split_ifs with hc
    · exact .inl ⟨hc, String.append_empty⟩
    · exact .inr ⟨hc, _, by decide, rfl⟩

theorem decode_number_iff (hc : c ≠ .plain) {h : Hint} (hh : h ∈ [Hint.single, .double])
    (hhint : c.hint type declared = h) {s : String} (hs : isTokenText s = true)
    (hnull : s ≠ "null") : (∃ w, c.decode s type declared = .ok w) ↔
      (floatOfText? (withoutSuffix floatMarks s)).isSome := by
  simp only [List.mem_cons, List.not_mem_nil, or_false] at hh
  rcases hh with rfl | rfl <;>
  · rw [decode_token hc hs hnull (by simp [hhint]), hhint, ofLiteralText, floatMarks]
    cases floatOfText? (withoutSuffix ['f', 'F', 'd', 'D'] s) <;> simp

theorem withoutSuffix_of_isNumeral {s : String} (h : isNumeral s.toList = true) :
    withoutSuffix floatMarks s = s := by
  have hmarks : ∀ c ∈ floatMarks, isDecimal c = false ∧ c ∉ numeralMarks :=
    List.forall_iff_forall_mem.1 (by decide)
  refine withoutSuffix_of_forall fun c hc hmark => ?_
  rcases mem_numeral h hc with hdecimal | hnumeral
  · cases (hmarks c hmark).1.symm.trans hdecimal
  · exact (hmarks c hmark).2 hnumeral

theorem withoutSuffix_decimalText (d : Decimal) : withoutSuffix floatMarks d.text = d.text := by
  cases d with
  | finite negative coefficient power =>
    exact withoutSuffix_of_isNumeral (isNumeral_decimalText negative coefficient power)
  | infinite negative => cases negative <;> decide
  | nan negative signaling payload =>
    have hmarks : ∀ c ∈ floatMarks, c.isDigit = false ∧ c ∉ ['-', 's', 'N', 'a', 'N'] :=
      List.forall_iff_forall_mem.1 (by decide)
    refine withoutSuffix_of_forall fun c hc hmark => ?_
    obtain ⟨hdigit, hword⟩ := hmarks c hmark
    rw [nanText, String.toList_ofList] at hc
    simp only [List.mem_append] at hc
    rcases hc with hc | (hc | hc) | hc
    · exact hword (by split at hc <;> simp_all)
    · exact hword (by split at hc <;> simp_all)
    · exact hword (by simp_all)
    · split at hc
      · cases hc
      · cases hdigit.symm.trans (isDigit_of_mem_toDigits c hc)

theorem append_mark_ne_null {t : String} {mark : Char} (hmark : mark ∈ ['f', 'd']) :
    t ++ String.ofList [mark] ≠ "null" := by
  intro h
  have hlast : "null".toList.getLast? = some mark := by rw [← h]; simp
  have hmarks : ∀ mark ∈ ['f', 'd'], "null".toList.getLast? ≠ some mark :=
    List.forall_iff_forall_mem.1 (by decide)
  exact hmarks mark hmark hlast

/-- A number is read from its text, which version 4 reads without a mark at its end. -/
theorem decode_numberText_iff (hc : c ≠ .plain) {h : Hint} (hh : h ∈ [Hint.single, .double])
    (hhint : c.hint type declared = h) {t literal : String} (ht : isTokenText t = true)
    (hnull : t ≠ "null") (hliteral : c = .odata4 ∧ literal = t ∨
      c ≠ .odata4 ∧ ∃ mark ∈ ['f', 'd'], literal = t ++ String.ofList [mark]) :
    (∃ w, c.decode literal type declared = .ok w) ↔
      (floatOfText? (if c = .odata4 then withoutSuffix floatMarks t else t)).isSome := by
  rcases hliteral with ⟨hc4, rfl⟩ | ⟨hc2, mark, hmark, rfl⟩
  · rw [if_pos hc4, decode_number_iff hc hh hhint ht hnull]
  · have hmarks : ∀ mark ∈ ['f', 'd'], mark ∈ floatMarks ∧
        isTokenText (String.ofList [mark]) = true :=
      List.forall_iff_forall_mem.1 (by decide)
    obtain ⟨hsuffix, htoken⟩ := hmarks mark hmark
    rw [if_neg hc2, decode_number_iff hc hh hhint (by rw [isTokenText_append, ht, htoken]; rfl)
      (append_mark_ne_null hmark), withoutSuffix_append hsuffix]

theorem exists_decimal {v : Value} (hv : ∀ x, v ≠ .float x) {t : String}
    (h : Typed.numberText (.value v) = .ok t) :
    ∃ d, Decimal.ofText? v.text = some d ∧ t = d.text := by
  unfold Typed.numberText at h
  split at h
  · rename_i x heq
    exact absurd (Typed.value.inj heq) (hv x)
  · rename_i d heq
    cases heq
  · split at h
    · exact ⟨_, ‹_›, (Except.ok.inj h).symm⟩
    · cases h

/-- The text of a number is read without a mark unless it is infinite: `inf` ends in one. -/
theorem isSome_floatOfText?_float_iff (c : Codec) (x : Binary64) :
    (floatOfText? (if c = .odata4 then withoutSuffix floatMarks x.text else x.text)).isSome ↔
      (c = .odata4 → ∀ negative, x ≠ .infinite negative) := by
  cases x with
  | nan =>
    refine iff_of_true ?_ fun _ _ => nofun
    split_ifs <;> decide
  | infinite negative =>
    split_ifs with hc
    · refine iff_of_false ?_ fun h => h hc negative rfl
      cases negative <;> decide
    · refine iff_of_true ?_ fun h => absurd h hc
      cases negative <;> decide
  | finite negative m e h =>
    have hnumeral := isNumeral_text negative m e h
    rw [withoutSuffix_of_isNumeral hnumeral, ite_self]
    refine iff_of_true (isSome_floatOfText? ?_) fun _ _ => nofun
    rwa [trimMargins_of_isTokenText (all_of_isNumeral hnumeral)]

theorem decode_float_iff (hc : c ≠ .plain) {h : Hint} (hh : h ∈ [Hint.single, .double])
    (hhint : c.hint type declared = h) {v : Value} (hv : v ≠ .null) {literal : String}
    (hliteral : c.odataLiteral h (.value v) = .ok literal) :
    (∃ w, c.decode literal type declared = .ok w) ↔ c.Rereads h v := by
  obtain ⟨t, ht, hliteral⟩ := exists_numberText hh hliteral
  by_cases hfloat : ∃ x, v = .float x
  · obtain ⟨x, rfl⟩ := hfloat
    cases ht
    rw [decode_numberText_iff hc hh hhint (isTokenText_floatText x) (floatText_ne_null x) hliteral,
      isSome_floatOfText?_float_iff]
    simp only [List.mem_cons, List.not_mem_nil, or_false] at hh
    rcases hh with rfl | rfl <;> rfl
  · rw [not_exists] at hfloat
    obtain ⟨d, hd, rfl⟩ := exists_decimal hfloat ht
    have hrereads : c.Rereads h v ↔ ¬d.IsDiagnosis := by
      simp only [List.mem_cons, List.not_mem_nil, or_false] at hh
      cases v with
      | null => exact absurd rfl hv
      | float x => exact absurd rfl (hfloat x)
      | _ => rcases hh with rfl | rfl <;> simp [Rereads, hd]
    rw [hrereads, decode_numberText_iff hc hh hhint (isTokenText_decimalText d)
      (decimalText_ne_null d) hliteral, withoutSuffix_decimalText, ite_self,
      isSome_floatOfText?_decimalText_iff]

theorem decode_time_iff (hc : c ≠ .plain) (hhint : c.hint type declared = .time) {v : Value}
    {literal : String} (hliteral : c.odataLiteral .time (.value v) = .ok literal) :
    (∃ w, c.decode literal type declared = .ok w) ↔ c.Rereads .time v := by
  unfold odataLiteral at hliteral
  dsimp only at hliteral
  split_ifs at hliteral with hc4
  · obtain ⟨t, -, hliteral⟩ := Except.bind_eq_ok_iff.1 hliteral
    cases hliteral
    refine iff_of_true (exists_decode_of_colon hc hhint ?_ (by simp)) ?_
    · simp only [isTokenText_append, isTokenText_paddedText]
      rfl
    · cases v with
      | str s => exact fun h => absurd hc4 h.1
      | _ => trivial
  · rcases encodeTime_cases (cast_eq_ok_iff.1 hliteral) with ⟨rfl, hlead⟩ | ⟨hnone, t, ht, rfl⟩
    · rw [decode_durationText_iff hc hc4 hhint hlead]
      exact ⟨fun h _ => h, fun h => h ⟨hc4, hlead⟩⟩
    · refine iff_of_true (decode_duration_ok hc hhint ht) ?_
      cases v with
      | str s => exact fun h => absurd h.2 (hnone s rfl)
      | _ => trivial

theorem decode_null (hc : c ≠ .plain) : c.decode "null" type declared = .ok .null := by
  have hclock : isClockText (trimChars "null".toList) = false := by decide
  rw [decode_eq hc, hclock, if_neg (by simp), if_pos rfl]

/-- The literal of a value is read under the type that it was written for exactly if `Rereads` says
so of the value. -/
theorem exists_decode_iff_rereads (hc : c ≠ .plain) {v : Value} {literal : String}
    (h : c.encode (.value v) type declared = .ok literal) :
    (∃ w, c.decode literal type declared = .ok w) ↔ c.Rereads (c.hint type declared) v := by
  by_cases hv : v = .null
  · subst hv
    obtain rfl : literal = "null" := by
      cases c with
      | plain => exact absurd rfl hc
      | odata2 | odata4 => exact (Except.ok.inj h).symm
    refine iff_of_true ⟨_, decode_null hc⟩ ?_
    cases c.hint type declared <;> trivial
  · rw [encode_of_ne_null hc hv] at h
    cases hhint : c.hint type declared with
    | guid | decimal | dateTimeOffset | binary | boolean | string | other name =>
      refine iff_of_true (exists_decode_of_forall hc (fun s => ?_) _) ?_
      · rw [hhint]
        exact ⟨_, rfl⟩
      · cases v <;> trivial
    | none => exact decode_none_iff hc hhint (hhint ▸ h)
    | int64 | int32 | int16 | byte | sbyte =>
      exact decode_integer_iff hc (by decide) hhint (hhint ▸ h)
    | single | double => exact decode_float_iff hc (by decide) hhint hv (hhint ▸ h)
    | dateTime => exact decode_dateTime_iff hc hhint hv (hhint ▸ h)
    | time => exact decode_time_iff hc hhint (hhint ▸ h)

/-- The start of the year 1000. -/
def millennium : DateTime where
  date := ⟨1000, 1, 1, by decide⟩
  time := .midnight
  offset := none

theorem exists_decode_iff_rereads_millennium :
    odata2 ≠ .plain ∧ odata2.encode (.value (.str "1000-01-01")) .timestamp none =
        .ok "datetime'1000-01-01T00:00:00'" ∧
      ∃ w, odata2.decode "datetime'1000-01-01T00:00:00'" .timestamp none = .ok w := by
  have hmoment : Typed.toMoment (.value (.str "1000-01-01")) = .ok millennium := rfl
  have hliteral : odata2.encode (.value (.str "1000-01-01")) .timestamp none =
      .ok "datetime'1000-01-01T00:00:00'" := by decide +kernel
  refine ⟨by decide, hliteral, (exists_decode_iff_rereads (by decide) hliteral).2 ?_⟩
  intro t ht
  obtain rfl := Except.ok.inj (ht.symm.trans hmoment)
  decide

/-- A moment of the year 999, an infinite number and a special value with a diagnosis. -/
theorem exists_encode_not_decode :
    odata2.encode (.value (.str "0999-05-01 10:00:00")) .timestamp none =
        .ok "datetime'999-05-01T10:00:00'" ∧
      odata2.decode "datetime'999-05-01T10:00:00'" .timestamp none =
        .error (.cast "'999-05-01T10:00:00'" "DateTime") ∧
      odata4.encode (.value (.float (.infinite false))) .number (some "Edm.Double") = .ok "inf" ∧
      odata4.decode "inf" .number (some "Edm.Double") = .error (.cast "'in'" "Double") ∧
      odata2.encode (.value (.str "NaN7")) .number (some "Edm.Double") = .ok "NaN7d" ∧
      odata2.decode "NaN7d" .number (some "Edm.Double") = .error (.cast "'NaN7'" "Double") := by
  refine ⟨?_, ?_, ?_, ?_, ?_, ?_⟩ <;> decide +kernel

end Codec

end EntityQuery
