import EntityQuery.Proofs.ClockReading
import EntityQuery.Proofs.LiteralRoundTrip
import EntityQuery.Proofs.NumberText

/-!
# Integers and times of day of a value

A value is an integer if it is one, a number without a fraction or a numeral
(`toInteger_eq_ok_iff`). It is a time of day only if it is a text of two integers between colons,
perhaps with a number of seconds after them (`toClock_eq_ok_iff`); whether hours and minutes are in
their ranges is not asked.
-/

namespace EntityQuery

open Number Text Typed

/-- The integer that a value is: itself, a number without a fraction, or a numeral. -/
inductive Value.IsInteger : Value → Int → Prop
  | int (n : Int) : IsInteger (.int n) n
  | float {x : Binary64} {n : Int} (h : x.eqInt n = true) : IsInteger (.float x) n
  | str {s : String} {n : Int} (h : integerOfText? (trim s) = some n) : IsInteger (.str s) n

theorem digitRun?_of_head {c : Char} (hc : isDecimal c = false) (r : List Char) :
    digitRun? (c :: r) = none := by
  have hnone : decimalValue? c = none := by simpa [isDecimal] using hc
  rw [digitRun?.eq_def]
  split
  · contradiction
  all_goals
    rename_i heq
    cases heq
    rw [hnone]
    rfl

/-- No integer starts with a letter or a bracket. -/
theorem integerOfText?_of_head {s : String} {c : Char} {r : List Char} (hs : s.toList = c :: r)
    (hc : isBlank c = false ∧ isDecimal c = false ∧ c ≠ '-' ∧ c ≠ '+') :
    integerOfText? s = none := by
  obtain ⟨hblank, hdecimal, hsigns⟩ := hc
  obtain ⟨r', hr'⟩ := exists_trimMargins_eq_cons hblank hs
  have hsign : takeSign (c :: r') = (false, c :: r') := by
    refine takeSign_of_head ?_
    rintro _ ⟨⟩
    exact hsigns
  rw [integerOfText?, integerOfChars?, hr', hsign]
  dsimp only
  rw [digitRun?_of_head hdecimal]
  rfl

/-- What the text of a value starts with that is no number and no text. -/
def valueMarks : List Char := ['N', 'T', 'F', '[', '\x7b']

theorem valueMarks_spec : ∀ c ∈ valueMarks,
    isBlank c = false ∧ isDecimal c = false ∧ c ≠ '-' ∧ c ≠ '+' :=
  List.forall_iff_forall_mem.1 (by decide)

theorem exists_valueMark {v : Value} (hstr : ∀ s, v ≠ .str s) (hint : ∀ n, v ≠ .int n)
    (hfloat : ∀ x, v ≠ .float x) : ∃ c ∈ valueMarks, ∃ r, v.text.toList = c :: r := by
  cases v with
  | null => exact ⟨'N', by decide, _, rfl⟩
  | bool b =>
    cases b with
    | true => exact ⟨'T', by decide, _, rfl⟩
    | false => exact ⟨'F', by decide, _, rfl⟩
  | int n => exact absurd rfl (hint n)
  | float x => exact absurd rfl (hfloat x)
  | str s => exact absurd rfl (hstr s)
  | list items =>
    refine ⟨'[', by decide, (join ", " (Value.shownItems items) ++ "]").toList, ?_⟩
    show (Value.shown (.list items)).toList = _
    simp [Value.shown]
  | map entries =>
    refine ⟨'\x7b', by decide, (join ", " (Value.shownEntries entries) ++ "\x7d").toList, ?_⟩
    show (Value.shown (.map entries)).toList = _
    simp [Value.shown]

theorem toInteger_eq_ok_iff {v : Value} {n : Int} :
    Typed.toInteger (.value v) = .ok n ↔ v.IsInteger n := by
  have hnone (hstr : ∀ s, v ≠ .str s) (hint : ∀ n, v ≠ .int n) (hfloat : ∀ x, v ≠ .float x) :
      integerOfText? (trim v.text) = none := by
    obtain ⟨c, hc, r, hr⟩ := exists_valueMark hstr hint hfloat
    obtain ⟨r', hr'⟩ := Text.exists_trimChars_eq_cons (valueMarks_spec c hc).1 hr
    have htrim : (trim v.text).toList = c :: r' := by rw [trim, String.toList_ofList, hr']
    exact integerOfText?_of_head htrim (valueMarks_spec c hc)
  cases v with
  | bool b => exact iff_of_false (by rintro ⟨⟩) (by rintro ⟨⟩)
  | int m =>
    constructor
    · rintro ⟨⟩
      exact .int _
    · rintro ⟨⟩
      rfl
  | float x =>
    have hread : x.eqInt n = true ↔ x.isInteger = true ∧ x.truncate? = some n := by
      simp [Binary64.eqInt]
    unfold Typed.toInteger
    dsimp only
    constructor
    · split
      · rintro ⟨⟩
        exact .float (hread.2 ⟨‹_›, ‹_›⟩)
      · rintro ⟨⟩
    · rintro ⟨⟩
      obtain ⟨hinteger, hn⟩ := hread.1 ‹_›
      rw [hinteger, hn]
  | str s =>
    unfold Typed.toInteger
    dsimp only [Typed.text, Value.text]
    constructor
    · split
      · rintro ⟨⟩
        exact .str ‹_›
      · rintro ⟨⟩
    · rintro ⟨⟩
      rw [‹integerOfText? (trim s) = some n›]
  | null | list _ | map _ =>
    have hread := hnone (fun _ h => by cases h) (fun _ h => by cases h) fun _ h => by cases h
    unfold Typed.toInteger
    dsimp only [Typed.text]
    rw [hread]
    exact iff_of_false (by rintro ⟨⟩) (by rintro ⟨⟩)

/-- The time of day that a text is: two integers, perhaps with a number after them whose fraction
is dropped, between colons. -/
inductive IsClock : String → Clock → Prop
  | minutes {h m : String} {hour minute : Int} (hcolon : ∀ part ∈ [h, m], ':' ∉ part.toList)
      (hh : integerOfText? h = some hour) (hm : integerOfText? m = some minute) :
      IsClock (join ":" [h, m]) ⟨hour, minute, none⟩
  | seconds {h m s : String} {hour minute second : Int} {x : Binary64}
      (hcolon : ∀ part ∈ [h, m, s], ':' ∉ part.toList)
      (hh : integerOfText? h = some hour) (hm : integerOfText? m = some minute)
      (hs : floatOfText? s = some x) (hx : x.truncate? = some second) :
      IsClock (join ":" [h, m, s]) ⟨hour, minute, some second⟩

/-- Two integers and infinitely many seconds between colons. -/
def HasEndlessSeconds (text : String) : Prop :=
  ∃ h m s negative, (∀ part ∈ [h, m, s], ':' ∉ part.toList) ∧ (integerOfText? h).isSome ∧
    (integerOfText? m).isSome ∧ floatOfText? s = some (.infinite negative) ∧
    text = join ":" [h, m, s]

/-- Hours and minutes are integers, or whatever comes after them is not read. -/
theorem clockParts_cases (h m : String) :
    (∃ hour minute, integerOfText? h = some hour ∧ integerOfText? m = some minute ∧
        clockPart h = .ok hour ∧ clockPart m = .ok minute) ∨
      ∀ f : Int → Int → Except Error Clock,
        (clockPart h >>= fun a => clockPart m >>= fun b => f a b) =
          .error (.malformed .number) := by
  unfold clockPart
  cases integerOfText? h with
  | none => exact .inr fun _ => rfl
  | some hour =>
    cases integerOfText? m with
    | none => exact .inr fun _ => rfl
    | some minute => exact .inl ⟨hour, minute, rfl, rfl, rfl, rfl⟩

theorem clockSeconds_cases (s : String) :
    (∃ x n, floatOfText? s = some x ∧ x.truncate? = some n) ∨
      (∃ negative, floatOfText? s = some (.infinite negative)) ∨
      clockSeconds s = .error (.malformed .number) := by
  unfold clockSeconds
  cases floatOfText? s with
  | none => exact .inr (.inr rfl)
  | some x =>
    cases x with
    | nan => exact .inr (.inr rfl)
    | infinite negative => exact .inr (.inl ⟨negative, rfl⟩)
    | finite negative m e h => exact .inl ⟨_, _, rfl, rfl⟩

theorem toClock_of_isClock {s : String} {t : Clock} (h : IsClock (trim s) t) :
    Typed.toClock (.value (.str s)) = .ok t := by
  have hsep : ":".toList = [':'] := rfl
  unfold Typed.toClock
  dsimp only [Typed.text, Value.text]
  generalize trim s = text at h
  cases h with
  | minutes hcolon hh hm =>
    rw [split_join hsep (List.cons_ne_nil _ _) hcolon]
    simp only [clockPart_of_some hh, clockPart_of_some hm]
    rfl
  | seconds hcolon hh hm hs hx =>
    rw [split_join hsep (List.cons_ne_nil _ _) hcolon]
    simp only [clockPart_of_some hh, clockPart_of_some hm, clockSeconds_of_some hs hx]
    rfl

theorem toClock_of_hasEndlessSeconds {s : String} (hs : HasEndlessSeconds (trim s)) :
    Typed.toClock (.value (.str s)) = .error (.codec .infinite "") := by
  have hsep : ":".toList = [':'] := rfl
  unfold Typed.toClock
  dsimp only [Typed.text, Value.text]
  generalize trim s = text at hs
  obtain ⟨h, m, second, negative, hcolon, hh, hm, hs, rfl⟩ := hs
  obtain ⟨hour, hh⟩ := Option.isSome_iff_exists.1 hh
  obtain ⟨minute, hm⟩ := Option.isSome_iff_exists.1 hm
  rw [split_join hsep (List.cons_ne_nil _ _) hcolon]
  simp only [clockPart_of_some hh, clockPart_of_some hm, clockSeconds, hs]
  rfl

/-- What a text is as a time of day: it is one, it has infinitely many seconds, or it is none. -/
theorem toClock_cases (s : String) :
    (∃ t, IsClock (trim s) t) ∨ HasEndlessSeconds (trim s) ∨
      ∃ e, (∀ m, e ≠ .codec .infinite m) ∧ Typed.toClock (.value (.str s)) = .error e := by
  have hsep : ":".toList = [':'] := rfl
  have htext := join_split hsep (trim s)
  have hcolon := not_mem_of_mem_split (c := ':') (a := trim s)
  have hfault : ∀ m, Error.malformed .number ≠ .codec .infinite m := fun _ => nofun
  unfold Typed.toClock
  dsimp only [Typed.text, Value.text]
  split
  · rename_i h m hparts
    rw [hparts] at htext hcolon
    rcases clockParts_cases h m with ⟨hour, minute, hh, hm, -⟩ | hfails
    · exact .inl ⟨_, htext ▸ IsClock.minutes hcolon hh hm⟩
    · exact .inr (.inr ⟨_, hfault, hfails _⟩)
  · rename_i h m second hparts
    rw [hparts] at htext hcolon
    rcases clockParts_cases h m with ⟨hour, minute, hh, hm, hhour, hminute⟩ | hfails
    · rcases clockSeconds_cases second with ⟨x, n, hx, hn⟩ | ⟨negative, hx⟩ | hsecond
      · exact .inl ⟨_, htext ▸ IsClock.seconds hcolon hh hm hx hn⟩
      · exact .inr (.inl ⟨h, m, second, negative, hcolon, Option.isSome_of_eq_some hh,
          Option.isSome_of_eq_some hm, hx, htext.symm⟩)
      · exact .inr (.inr ⟨_, hfault, by rw [hhour, hminute, hsecond]; rfl⟩)
    · exact .inr (.inr ⟨_, hfault, hfails _⟩)
  · exact .inr (.inr ⟨_, fun _ => by simp, rfl⟩)

/-- The text of a number has no colon. -/
theorem colon_not_mem_number {v : Value} (hv : (∃ n, v = .int n) ∨ ∃ x, v = .float x) :
    ':' ∉ v.text.toList := by
  intro hmem
  rcases hv with ⟨n, rfl⟩ | ⟨x, rfl⟩
  · exact absurd (Codec.mem_integerText hmem) (by decide)
  · have hmem : ':' ∈ x.text.toList := hmem
    cases x with
    | nan => exact absurd hmem (by decide)
    | infinite negative => cases negative <;> exact absurd hmem (by decide)
    | finite negative m e h =>
      exact absurd (mem_numeral (isNumeral_text negative m e h) hmem) (by decide)

/-- What is no text is no time of day. -/
theorem exists_toClock_error {v : Value} (hv : ∀ s, v ≠ .str s) :
    ∃ e, (∀ m, e ≠ .codec .infinite m) ∧ Typed.toClock (.value v) = .error e := by
  have hfault : ∀ m, Error.malformed .number ≠ .codec .infinite m := fun _ => nofun
  unfold Typed.toClock
  dsimp only [Typed.text]
  by_cases hnumber : (∃ n, v = .int n) ∨ ∃ x, v = .float x
  · have hcolon : ':' ∉ (trimChars v.text.toList) :=
      fun hmem => colon_not_mem_number hnumber (mem_of_mem_trimChars hmem)
    rw [split, trim, String.toList_ofList, splitChar_of_not_mem _ _ hcolon]
    exact ⟨_, fun _ => by simp, rfl⟩
  · rw [not_or, not_exists, not_exists] at hnumber
    obtain ⟨c, hc, r, hr⟩ := exists_valueMark hv hnumber.1 hnumber.2
    obtain ⟨hblank, hnodigit⟩ := valueMarks_spec c hc
    obtain ⟨r', hr'⟩ := Text.exists_trimChars_eq_cons hblank hr
    have hcolon : c ≠ ':' := by
      rintro rfl
      exact absurd hc (by decide)
    have htrim : (trim v.text).toList = c :: r' := String.toList_ofList.trans hr'
    obtain ⟨p, ps, hsplit, q, hp⟩ := exists_split_of_head htrim hcolon
    have hpart : clockPart p = .error (.malformed .number) := by
      rw [clockPart, integerOfText?_of_head hp ⟨hblank, hnodigit⟩]
    rw [hsplit]
    split
    · rename_i heq
      cases heq
      exact ⟨_, hfault, by rw [hpart]; rfl⟩
    · rename_i heq
      cases heq
      exact ⟨_, hfault, by rw [hpart]; rfl⟩
    · exact ⟨_, fun _ => by simp, rfl⟩

theorem toClock_eq_ok_iff {v : Value} {t : Clock} :
    Typed.toClock (.value v) = .ok t ↔ ∃ s, v = .str s ∧ IsClock (trim s) t := by
  constructor
  · intro h
    by_cases hstr : ∃ s, v = .str s
    · obtain ⟨s, rfl⟩ := hstr
      rcases toClock_cases s with ⟨t', ht⟩ | hendless | ⟨e, -, he⟩
      · cases h.symm.trans (toClock_of_isClock ht)
        exact ⟨s, rfl, ht⟩
      · cases h.symm.trans (toClock_of_hasEndlessSeconds hendless)
      · cases h.symm.trans he
    · obtain ⟨e, -, he⟩ := exists_toClock_error (not_exists.1 hstr)
      cases h.symm.trans he
  · rintro ⟨s, rfl, ht⟩
    exact toClock_of_isClock ht

end EntityQuery
