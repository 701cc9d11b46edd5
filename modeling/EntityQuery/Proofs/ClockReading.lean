import EntityQuery.Codec.Moment
import EntityQuery.Proofs.MomentReading
import EntityQuery.Proofs.Separation

/-!
# Times of day are read as they are written

A time of day in fields of two digits becomes a duration (`toClock_clockText`) and the duration the
time again (`decodeTime?_duration`), with or without seconds and whatever numbers the fields hold.
-/

namespace EntityQuery

open Calendar Number Text

/-- A field of two digits of ASCII. -/
def IsField (s : String) : Prop := s.toList.length = 2 ∧ ∀ c ∈ s.toList, c.isDigit = true

instance (s : String) : Decidable (IsField s) :=
  decidable_of_iff (s.toList.length = 2 ∧ s.toList.all Char.isDigit) (by simp [IsField])

theorem exists_digitChar {c : Char} (h : c.isDigit = true) : ∃ d < 10, c = Nat.digitChar d := by
  have hbounds : 48 ≤ c.toNat ∧ c.toNat ≤ 57 := by
    simp only [Char.isDigit, Bool.and_eq_true, decide_eq_true_eq] at h
    exact ⟨UInt32.le_iff_toNat_le.1 h.1, UInt32.le_iff_toNat_le.1 h.2⟩
  have hdigits : ∀ d < 10, Char.ofNat (48 + d) = Nat.digitChar d := by decide
  refine ⟨c.toNat - 48, by omega, ?_⟩
  rw [← hdigits _ (by omega), Nat.add_sub_cancel' hbounds.1, Char.ofNat_toNat]

theorem IsField.exists_eq_two {s : String} (h : IsField s) : ∃ n < 100, s = two n := by
  have htwo : ∀ i < 10, ∀ j < 10,
      two (10 * i + j : Nat) = String.ofList [Nat.digitChar i, Nat.digitChar j] := by decide
  obtain ⟨hlength, hdigits⟩ := h
  obtain ⟨a, b, hab⟩ := List.length_eq_two.1 hlength
  obtain ⟨i, hi, rfl⟩ := exists_digitChar (hdigits a (by simp [hab]))
  obtain ⟨j, hj, rfl⟩ := exists_digitChar (hdigits b (by simp [hab]))
  exact ⟨10 * i + j, by omega, by rw [htwo i hi j hj, ← hab, String.ofList_toList]⟩

theorem clockPart_of_some {s : String} {n : Int} (h : integerOfText? s = some n) :
    Typed.clockPart s = .ok n := by
  rw [Typed.clockPart, h]

theorem clockSeconds_of_some {s : String} {x : Binary64} {n : Int} (hs : floatOfText? s = some x)
    (hx : x.truncate? = some n) : Typed.clockSeconds s = .ok n := by
  rw [Typed.clockSeconds, hs]
  cases x with
  | nan | infinite _ => cases hx
  | finite negative m e h =>
    dsimp only
    rw [hx]

theorem clockPart_two {n : Nat} (h : n < 100) : Typed.clockPart (two n) = .ok (n : Int) := by
  obtain ⟨a, b, hchars, hspells⟩ := exists_two h
  apply clockPart_of_some
  rw [integerOfText?, hchars,
    hspells.integerOfChars?_eq (List.cons_ne_nil _ _) (by decide : 2 ≤ maxDigits)]

theorem clockSeconds_two {n : Nat} (h : n < 100) : Typed.clockSeconds (two n) = .ok (n : Int) := by
  have hvalue : ∀ n < 100, ((floatOfText? (two n)).bind Binary64.truncate?) = some (n : Int) := by
    decide +kernel
  obtain ⟨x, hx, htruncate⟩ := Option.bind_eq_some_iff.1 (hvalue n h)
  exact clockSeconds_of_some hx htruncate

/-- A time of day as its fields are written. -/
def clockText (hour minute : Nat) (second : Option Nat) : String :=
  two hour ++ ":" ++ two minute ++ (second.map fun n => ":" ++ two n).getD ""

/-- A time of day `hh:mm` in fields of two digits. -/
def IsMinuteText (s : String) : Prop := ∃ h m, IsField h ∧ IsField m ∧ s = h ++ ":" ++ m

/-- A time of day `hh:mm:ss` in fields of two digits. -/
def IsSecondText (s : String) : Prop :=
  ∃ h m n, IsField h ∧ IsField m ∧ IsField n ∧ s = h ++ ":" ++ m ++ ":" ++ n

theorem IsMinuteText.exists_clockText {s : String} (hs : IsMinuteText s) :
    ∃ h < 100, ∃ m < 100, s = clockText h m none := by
  obtain ⟨_, _, hh, hm, rfl⟩ := hs
  obtain ⟨h, hlt, rfl⟩ := hh.exists_eq_two
  obtain ⟨m, mlt, rfl⟩ := hm.exists_eq_two
  exact ⟨h, hlt, m, mlt, by simp [clockText]⟩

theorem IsSecondText.exists_clockText {s : String} (hs : IsSecondText s) :
    ∃ h < 100, ∃ m < 100, ∃ n < 100, s = clockText h m (some n) := by
  obtain ⟨_, _, _, hh, hm, hn, rfl⟩ := hs
  obtain ⟨h, hlt, rfl⟩ := hh.exists_eq_two
  obtain ⟨m, mlt, rfl⟩ := hm.exists_eq_two
  obtain ⟨n, nlt, rfl⟩ := hn.exists_eq_two
  exact ⟨h, hlt, m, mlt, n, nlt, by simp [clockText, String.append_assoc]⟩

theorem mem_clockText {h m : Nat} {s : Option Nat} {c : Char}
    (hc : c ∈ (clockText h m s).toList) : c.isDigit = true ∨ c = ':' := by
  have hdigit {n : Nat} (hn : c ∈ (two n).toList) : c.isDigit = true ∨ c = ':' :=
    .inl ((spells_paddedText 2 n).digits c hn)
  simp only [clockText, String.toList_append, List.mem_append] at hc
  rcases hc with ((hc | hc) | hc) | hc
  · exact hdigit hc
  · exact .inr (List.mem_singleton.1 hc)
  · exact hdigit hc
  · cases s with
    | none => cases hc
    | some n =>
      rw [Option.map_some, Option.getD_some, String.toList_append, List.mem_append] at hc
      exact hc.elim (fun hc => .inr (List.mem_singleton.1 hc)) hdigit

theorem isBlank_of_mem_clockText {h m : Nat} {s : Option Nat} :
    ∀ c ∈ (clockText h m s).toList, isBlank c = false := by
  intro c hc
  rcases mem_clockText hc with hc | rfl
  · exact isBlank_of_isDigit_ascii hc
  · decide

theorem not_mem_two (n : Nat) : ':' ∉ (two n).toList :=
  fun h => absurd ((spells_paddedText 2 n).digits _ h) (by decide)

section Clock

variable {h m : Nat} {s : Option Nat} (hh : h < 100) (hm : m < 100) (hs : ∀ n ∈ s, n < 100)
include hh hm hs

theorem toClock_clockText : Typed.toClock (.value (.str (clockText h m s))) =
    .ok ⟨h, m, s.map Int.ofNat⟩ := by
  have htrim : trim (clockText h m s) = clockText h m s := by
    rw [trim, trimChars_of_forall isBlank_of_mem_clockText, String.ofList_toList]
  simp only [Typed.toClock, Typed.text, Value.text, htrim]
  cases s with
  | none =>
    have hsplit : split ':' (clockText h m none) = [two h, two m] := by
      have hjoin : clockText h m none = join ":" [two h, two m] := by
        simp [clockText, join, String.intercalate_cons_cons, String.append_assoc]
      rw [hjoin, split_join rfl (List.cons_ne_nil _ _)]
      simp [not_mem_two]
    rw [hsplit]
    simp [clockPart_two hh, clockPart_two hm]
    rfl
  | some n =>
    have hsplit : split ':' (clockText h m (some n)) = [two h, two m, two n] := by
      have hjoin : clockText h m (some n) = join ":" [two h, two m, two n] := by
        simp [clockText, join, String.intercalate_cons_cons, String.append_assoc]
      rw [hjoin, split_join rfl (List.cons_ne_nil _ _)]
      simp [not_mem_two]
    rw [hsplit]
    simp [clockPart_two hh, clockPart_two hm, clockSeconds_two (hs n rfl)]
    rfl

end Clock

theorem quantity?_append {ds rest : List Char} {unit : Char} (hne : ds ≠ [])
    (hds : ∀ c ∈ ds, isDecimal c = true) (hunit : isDecimal unit = false) :
    quantity? unit (ds ++ unit :: rest) = (some ds, rest) := by
  have hspan : spanDecimals (ds ++ unit :: rest) = (ds, unit :: rest) :=
    spanDecimals_append hds (by simpa using hunit)
  obtain ⟨d, r, rfl⟩ := List.exists_cons_of_ne_nil hne
  simp only [quantity?, hspan, if_true]

theorem twoDigits_two {n : Nat} (h : n < 100) : twoDigits (two n).toList = .ok (two n) := by
  obtain ⟨a, b, hchars, hspells⟩ := exists_two h
  rw [twoDigits, hchars,
    hspells.integerOfChars?_eq (List.cons_ne_nil _ _) (by decide : 2 ≤ maxDigits)]
  rfl

theorem quantity?_two {n : Nat} (h : n < 100) {unit : Char} (hunit : isDecimal unit = false)
    (rest : List Char) :
    quantity? unit ((two n).toList ++ unit :: rest) = (some (two n).toList, rest) := by
  obtain ⟨a, b, hchars, hspells⟩ := exists_two h
  rw [hchars]
  exact quantity?_append (List.cons_ne_nil _ _) hspells.isDecimal hunit

section Duration

variable {h m : Nat} {s : Option Nat} (hh : h < 100) (hm : m < 100) (hs : ∀ n ∈ s, n < 100)
include hh hm hs

theorem durationParts?_duration :
    durationParts? (Typed.Clock.duration ⟨h, m, s.map Int.ofNat⟩).toList =
      some (some (two h).toList, some (two m).toList, s.map fun n => (two n).toList) := by
  have hhours (rest : List Char) := quantity?_two hh (by decide : isDecimal 'H' = false) rest
  have hminutes (rest : List Char) := quantity?_two hm (by decide : isDecimal 'M' = false) rest
  cases s with
  | none =>
    have hchars : (Typed.Clock.duration ⟨h, m, none⟩).toList =
        'P' :: 'T' :: ((two h).toList ++ 'H' :: ((two m).toList ++ ['M'])) := by
      simp [Typed.Clock.duration, two]
    have hnone : seconds? [] = (none, []) := by decide
    rw [Option.map_none, hchars]
    simp [durationParts?, hhours, hminutes, hnone]
  | some n =>
    have hchars : (Typed.Clock.duration ⟨h, m, some (n : Int)⟩).toList = 'P' :: 'T' ::
        ((two h).toList ++ 'H' :: ((two m).toList ++ 'M' :: ((two n).toList ++ ['S']))) := by
      simp [Typed.Clock.duration, two]
    have hsome : seconds? ((two n).toList ++ ['S']) = (some (two n).toList, []) := by
      rw [seconds?, quantity?_two (hs n rfl) (by decide : isDecimal 'S' = false)]
    rw [Option.map_some, Int.ofNat_eq_natCast, hchars]
    simp [durationParts?, hhours, hminutes, hsome]

/-- A duration is read as the time of day that it was made from. -/
theorem decodeTime?_duration :
    decodeTime? (Typed.Clock.duration ⟨h, m, s.map Int.ofNat⟩) = .ok (some (clockText h m s)) := by
  rw [decodeTime?, trimChars_of_isTokenText (isTokenText_duration _),
    durationParts?_duration hh hm hs]
  simp only [Option.getD_some, twoDigits_two hh, twoDigits_two hm]
  cases s with
  | none => rfl
  | some n =>
    simp only [Option.map_some, twoDigits_two (hs n rfl)]
    rfl

end Duration

end EntityQuery
