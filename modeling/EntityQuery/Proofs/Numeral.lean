import EntityQuery.Data.Container
import EntityQuery.Proofs.BareToken
import Mathlib.Tactic.Ring

/-!
# Numerals that are read back

Digits are read as the number that they spell, with or without zeros before it (`Spells`). So the
decimal numeral of an integer is read as that integer (`integerOfText?_integerText`), and a counter
that holds the numeral of a number counts as that number (`parseCount_natText`), as long as the
numeral is not longer than any that is read.
-/

namespace EntityQuery

open Number Text

/-- Only what stands at its ends is taken off a text. -/
theorem Text.stripChars_of_ends {drop : Char → Bool} {cs : List Char}
    (hhead : ∀ c ∈ cs.head?, drop c = false) (hlast : ∀ c ∈ cs.getLast?, drop c = false) :
    stripChars drop cs = cs := by
  have hkeep : ∀ ds : List Char, (∀ c ∈ ds.head?, drop c = false) → ds.dropWhile drop = ds := by
    intro ds hds
    cases ds with
    | nil => rfl
    | cons d ds => rw [List.dropWhile_cons_of_neg (by simp [hds d rfl])]
  rw [stripChars, hkeep cs hhead, hkeep _ (by rwa [List.head?_reverse]), List.reverse_reverse]

theorem Text.stripChars_of_forall {drop : Char → Bool} {cs : List Char}
    (h : ∀ c ∈ cs, drop c = false) : stripChars drop cs = cs :=
  stripChars_of_ends (fun c hc => h c (List.mem_of_mem_head? hc))
    fun c hc => h c (List.mem_of_mem_getLast? hc)

theorem Text.exists_stripChars_eq_cons {drop : Char → Bool} {c : Char} (hc : drop c = false)
    {cs r : List Char} (hcs : cs = c :: r) : ∃ r', stripChars drop cs = c :: r' := by
  have hkeep : ¬drop c = true := by simp [hc]
  rw [← List.head?_eq_some_iff, hcs, stripChars, List.dropWhile_cons_of_neg hkeep,
    List.reverse_cons, List.dropWhile_append, List.dropWhile_cons_of_neg hkeep]
  split_ifs <;> simp

theorem Text.trimChars_of_ends {cs : List Char} (hhead : ∀ c ∈ cs.head?, isBlank c = false)
    (hlast : ∀ c ∈ cs.getLast?, isBlank c = false) : trimChars cs = cs :=
  stripChars_of_ends hhead hlast

theorem Text.trimChars_of_forall {cs : List Char} (h : ∀ c ∈ cs, isBlank c = false) :
    trimChars cs = cs :=
  stripChars_of_forall h

theorem Text.exists_trimChars_eq_cons {c : Char} (hc : isBlank c = false) {cs r : List Char}
    (hcs : cs = c :: r) : ∃ r', trimChars cs = c :: r' :=
  exists_stripChars_eq_cons hc hcs

/-- Nothing but blanks stands around a numeral. -/
theorem Number.isMargin_of_not_isBlank {c : Char} (h : isBlank c = false) : isMargin c = false := by
  rw [isMargin, h, Bool.false_and]

theorem Number.trimMargins_of_forall {cs : List Char} (h : ∀ c ∈ cs, isBlank c = false) :
    trimMargins cs = cs :=
  stripChars_of_forall fun c hc => isMargin_of_not_isBlank (h c hc)

theorem Number.exists_trimMargins_eq_cons {c : Char} (hc : isBlank c = false) {cs r : List Char}
    (hcs : cs = c :: r) : ∃ r', trimMargins cs = c :: r' :=
  exists_stripChars_eq_cons (isMargin_of_not_isBlank hc) hcs

theorem Text.trimChars_trimChars (cs : List Char) : trimChars (trimChars cs) = trimChars cs := by
  have hfirst (ds : List Char) : ∀ c ∈ (ds.dropWhile isBlank).head?, isBlank c = false := by
    intro c hc
    have h := List.head?_dropWhile_not isBlank ds
    rw [Option.mem_def.1 hc] at h
    exact h
  refine trimChars_of_ends ?_ ?_
  · intro c hc
    obtain ⟨rest, hrest⟩ : trimChars cs <+: cs.dropWhile isBlank := by
      rw [← List.reverse_suffix, trimChars, stripChars, List.reverse_reverse]
      exact List.dropWhile_suffix _
    refine hfirst cs c ?_
    rw [← hrest, List.head?_append, Option.mem_def.1 hc]
    rfl
  · intro c hc
    rw [trimChars, stripChars, List.getLast?_reverse] at hc
    exact hfirst _ c hc

theorem isBlank_of_isTokenChar {c : Char} (h : isTokenChar c = true) : isBlank c = false := by
  simp only [isTokenChar, Bool.and_eq_true, Bool.not_eq_true'] at h
  exact h.1.1.1.1

theorem Text.isBlank_of_isDigit_ascii {c : Char} (h : c.isDigit = true) : isBlank c = false :=
  isBlank_of_isTokenChar (isTokenChar_of_isDecimal (isDecimal_of_isDigit_ascii h))

/-- Nothing is trimmed off a token. -/
theorem trimChars_of_isTokenText {s : String} (h : isTokenText s = true) :
    trimChars s.toList = s.toList :=
  trimChars_of_forall fun c hc => isBlank_of_isTokenChar (List.all_eq_true.1 h c hc)

theorem trimMargins_of_isTokenText {s : String} (h : isTokenText s = true) :
    trimMargins s.toList = s.toList :=
  trimMargins_of_forall fun c hc => isBlank_of_isTokenChar (List.all_eq_true.1 h c hc)

theorem trim_of_isTokenText {s : String} (h : isTokenText s = true) : trim s = s := by
  rw [trim, trimChars_of_isTokenText h, String.ofList_toList]

namespace Number

theorem digitRun?_of_forall {cs : List Char} (hne : cs ≠ [])
    (h : ∀ c ∈ cs, c.isDigit = true) :
    digitRun? cs = some (cs.map fun c => c.toNat - 48) := by
  induction cs with
  | nil => exact absurd rfl hne
  | cons c cs ih =>
    rw [List.forall_mem_cons] at h
    have hvalue := decimalValue?_of_isDigit_ascii h.1
    cases cs with
    | nil => simp [digitRun?, hvalue]
    | cons d cs =>
      have hscore : d ≠ '_' := by
        rintro rfl
        exact absurd (h.2 _ List.mem_cons_self) (by decide)
      have hrest := ih (List.cons_ne_nil _ _) h.2
      rw [digitRun?, hvalue, hrest]
      · rfl
      · simp
      · simp [hscore]

theorem takeSign_of_forall {cs : List Char} (h : ∀ c ∈ cs, c.isDigit = true) :
    takeSign cs = (false, cs) := by
  unfold takeSign
  split
  · exact absurd (h _ List.mem_cons_self) (by decide)
  · exact absurd (h _ List.mem_cons_self) (by decide)
  · rfl

theorem isDigit_of_mem_toDigits {n : Nat} : ∀ c ∈ Nat.toDigits 10 n, c.isDigit = true :=
  fun _ hc => Nat.isDigit_of_mem_toDigits (by decide) (by decide) hc

/-- Digits of ASCII that stand for a number; zeros before it do not count. -/
structure Spells (cs : List Char) (n : Nat) : Prop where
  digits : ∀ c ∈ cs, c.isDigit = true
  value : ofDigits (cs.map fun c => c.toNat - 48) = n

theorem Spells.isDecimal {cs : List Char} {n : Nat} (h : Spells cs n) :
    ∀ c ∈ cs, isDecimal c = true := fun c hc => isDecimal_of_isDigit_ascii (h.digits c hc)

theorem ofDigits_append (ds es : List Nat) :
    ofDigits (ds ++ es) = ofDigits ds * 10 ^ es.length + ofDigits es := by
  have hstart (n : Nat) :
      es.foldl (fun n d => 10 * n + d) n = n * 10 ^ es.length + ofDigits es := by
    induction es generalizing n with
    | nil => simp [ofDigits]
    | cons e es ih =>
      have hcons : ofDigits (e :: es) = (10 * 0 + e) * 10 ^ es.length + ofDigits es := ih _
      rw [List.foldl_cons, ih, hcons, List.length_cons, Nat.pow_succ]
      ring
  rw [ofDigits, List.foldl_append, hstart]
  rfl

theorem spells_toDigits (n : Nat) : Spells (Nat.toDigits 10 n) n := by
  refine ⟨isDigit_of_mem_toDigits, ?_⟩
  rw [ofDigits, List.foldl_map]
  exact Nat.ofDigitChars_ten_toDigits

theorem spells_zeros (k : Nat) : Spells (List.replicate k '0') 0 := by
  refine ⟨fun c hc => by rw [List.eq_of_mem_replicate hc]; decide, ?_⟩
  induction k with
  | zero => rfl
  | succ k ih =>
    rw [List.replicate_succ', List.map_append, ofDigits_append, ih]
    rfl

theorem Spells.append {cs ds : List Char} {m n : Nat} (hcs : Spells cs m) (hds : Spells ds n) :
    Spells (cs ++ ds) (m * 10 ^ ds.length + n) := by
  refine ⟨fun c hc => (List.mem_append.1 hc).elim (hcs.digits c) (hds.digits c), ?_⟩
  rw [List.map_append, ofDigits_append, hcs.value, hds.value, List.length_map]

theorem spells_paddedText (width n : Nat) : Spells (paddedText width n).toList n := by
  have hsigned : ¬((n : Int) < 0) := by omega
  have happend := (spells_zeros (width - (Nat.toDigits 10 n).length)).append (spells_toDigits n)
  rw [Nat.zero_mul, Nat.zero_add] at happend
  rw [paddedText, String.toList_ofList]
  simpa [hsigned] using happend

/-- Digits alone stand for a natural number. -/
theorem Spells.integerOfChars?_eq {cs : List Char} {n : Nat} (h : Spells cs n) (hne : cs ≠ [])
    (hlength : cs.length ≤ maxDigits) : integerOfChars? cs = some (n : Int) := by
  have htrim : trimMargins cs = cs :=
    trimMargins_of_forall fun c hc => isBlank_of_isDigit_ascii (h.digits c hc)
  rw [integerOfChars?, htrim, takeSign_of_forall h.digits]
  simp [digitRun?_of_forall hne h.digits, hlength, h.value]

theorem Spells.integerOfChars?_minus {cs : List Char} {n : Nat} (h : Spells cs n) (hne : cs ≠ [])
    (hlength : cs.length ≤ maxDigits) : integerOfChars? ('-' :: cs) = some (-(n : Int)) := by
  have hblank : ∀ c ∈ '-' :: cs, isBlank c = false := by
    rw [List.forall_mem_cons]
    exact ⟨by decide, fun c hc => isBlank_of_isDigit_ascii (h.digits c hc)⟩
  rw [integerOfChars?, trimMargins_of_forall hblank, takeSign]
  simp [digitRun?_of_forall hne h.digits, hlength, h.value]

theorem Spells.integerOfChars?_of_long {cs : List Char} {n : Nat} (h : Spells cs n)
    (hlong : maxDigits < cs.length) : integerOfChars? cs = none := by
  have htrim : trimMargins cs = cs :=
    trimMargins_of_forall fun c hc => isBlank_of_isDigit_ascii (h.digits c hc)
  have hne : cs ≠ [] := List.ne_nil_of_length_pos (Nat.zero_lt_of_lt hlong)
  rw [integerOfChars?, htrim, takeSign_of_forall h.digits]
  simp [digitRun?_of_forall hne h.digits, Nat.not_le.2 hlong]

theorem takeWhile_dropWhile_append {p : Char → Bool} {cs rest : List Char}
    (hcs : ∀ c ∈ cs, p c = true) (hrest : ∀ c ∈ rest.head?, p c = false) :
    (cs ++ rest).takeWhile p = cs ∧ (cs ++ rest).dropWhile p = rest := by
  have hstop : rest.takeWhile p = [] ∧ rest.dropWhile p = rest := by
    cases rest with
    | nil => exact ⟨rfl, rfl⟩
    | cons c rest =>
      have hc : ¬p c = true := by simp [hrest c rfl]
      exact ⟨List.takeWhile_cons_of_neg hc, List.dropWhile_cons_of_neg hc⟩
  rw [List.takeWhile_append_of_pos hcs, List.dropWhile_append_of_pos hcs, hstop.1, hstop.2,
    List.append_nil]
  exact ⟨rfl, rfl⟩

/-- Reading digits ends where they do. -/
theorem spanDecimals_append {ds rest : List Char} (hds : ∀ c ∈ ds, isDecimal c = true)
    (hrest : ∀ c ∈ rest.head?, isDecimal c = false) : spanDecimals (ds ++ rest) = (ds, rest) := by
  obtain ⟨htake, hdrop⟩ := takeWhile_dropWhile_append hds hrest
  rw [spanDecimals, List.span_eq_takeWhile_dropWhile, htake, hdrop]

theorem append_spanDecimals (cs : List Char) :
    (spanDecimals cs).1 ++ (spanDecimals cs).2 = cs := by
  rw [spanDecimals, List.span_eq_takeWhile_dropWhile]
  exact List.takeWhile_append_dropWhile

theorem isDecimal_of_mem_spanDecimals {cs : List Char} :
    ∀ c ∈ (spanDecimals cs).1, isDecimal c = true := by
  rw [spanDecimals, List.span_eq_takeWhile_dropWhile]
  exact List.all_eq_true.1 List.all_takeWhile

theorem integerOfText?_natText {n : Nat} (h : (Nat.toDigits 10 n).length ≤ maxDigits) :
    integerOfText? (natText n) = some (n : Int) := by
  rw [integerOfText?, natText, String.toList_ofList,
    (spells_toDigits n).integerOfChars?_eq Nat.toDigits_ne_nil h]

theorem integerOfText?_of_long {n : Nat} (h : maxDigits < (Nat.toDigits 10 n).length) :
    integerOfText? (natText n) = none := by
  rw [integerOfText?, natText, String.toList_ofList, (spells_toDigits n).integerOfChars?_of_long h]

/-- The least number whose numeral is too long. -/
theorem maxDigits_lt_length : maxDigits < (Nat.toDigits 10 (10 ^ maxDigits)).length :=
  Nat.not_le.1 fun h =>
    Nat.lt_irrefl _ ((Nat.length_toDigits_le_iff (by decide) (by decide)).1 h)

theorem integerOfText?_minus {n : Nat} (h : (Nat.toDigits 10 n).length ≤ maxDigits) :
    integerOfText? ("-" ++ natText n) = some (-(n : Int)) := by
  have hchars : ("-" ++ natText n).toList = '-' :: Nat.toDigits 10 n := by
    rw [String.toList_append, natText, String.toList_ofList]
    simp
  rw [integerOfText?, hchars, (spells_toDigits n).integerOfChars?_minus Nat.toDigits_ne_nil h]

/-- The numeral of an integer is read as the integer. -/
theorem integerOfText?_integerText {n : Int}
    (h : (Nat.toDigits 10 n.natAbs).length ≤ maxDigits) :
    integerOfText? (integerText n) = some n := by
  rw [integerText]
  split_ifs with hneg
  · rw [integerOfText?_minus h, show -(n.natAbs : Int) = n by omega]
  · rw [integerOfText?_natText h, show (n.natAbs : Int) = n by omega]

end Number

/-- A counter that holds the numeral of a number counts as the number. -/
theorem parseCount_natText {n : Nat} (h : (Nat.toDigits 10 n).length ≤ maxDigits) :
    parseCount (.str (natText n)) = .ok (some (n : Int)) := by
  have htrim : trim (natText n) = natText n := by
    rw [trim, natText, String.toList_ofList, trimChars_of_forall fun c hc =>
      isBlank_of_isDigit_ascii (isDigit_of_mem_toDigits c hc)]
  have hnumbered : Container.isNumbered (natText n) = true := by
    have hdigit : ∀ c ∈ Nat.toDigits 10 n, isDigit c = true := by
      intro c hc
      rw [isDigit, isDecimal_of_isDigit_ascii (isDigit_of_mem_toDigits c hc), Bool.true_or]
    rw [Container.isNumbered, Bool.and_eq_true]
    refine ⟨by simpa using natText_ne_empty n, ?_⟩
    rw [natText, String.toList_ofList]
    exact List.all_eq_true.2 hdigit
  simp [parseCount, htrim, hnumbered, integerOfText?_natText h]

end EntityQuery
