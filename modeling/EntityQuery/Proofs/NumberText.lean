import EntityQuery.Proofs.NumberReading

/-!
# Texts of numbers

The text of a decimal or of a number of 64 bits is a numeral as long as it is finite
(`isNumeral_decimalText`, `isNumeral_text`). So a decimal is read as a number from its own text,
unless it is none and says why (`isSome_floatOfText?_decimalText_iff`). What is read as an integer
is never longer than what can be read (`length_le_of_integerOfText?`).
-/

namespace EntityQuery

open Number Text

theorem isDecimal_of_mem_toDigits {n : Nat} : ∀ c ∈ Nat.toDigits 10 n, isDecimal c = true :=
  fun c hc => isDecimal_of_isDigit_ascii (isDigit_of_mem_toDigits c hc)

theorem isDigits_toDigits (n : Nat) : IsDigits (Nat.toDigits 10 n) :=
  ⟨Nat.toDigits_ne_nil, isDecimal_of_mem_toDigits⟩

theorem exists_signed_integerText (n : Int) : ∃ lead ∈ numeralSigns,
    (integerText n).toList = lead ++ Nat.toDigits 10 n.natAbs := by
  rw [integerText, natText]
  split_ifs
  · exact ⟨['-'], by decide, by simp⟩
  · exact ⟨[], by decide, by simp⟩

theorem isLongInteger_integerText_iff (n : Int) :
    IsLongInteger (integerText n).toList ↔ maxDigits < (Nat.toDigits 10 n.natAbs).length := by
  obtain ⟨lead, hlead, htext⟩ := exists_signed_integerText n
  rw [htext, isLongInteger_append_iff hlead (isDigits_toDigits _)]

theorem lt_of_digitRun? {cs : List Char} {ds : List Nat} (h : digitRun? cs = some ds) :
    ∀ d ∈ ds, d < 10 := by
  fun_induction digitRun? cs generalizing ds with
  | case1 => cases h
  | case2 c =>
    obtain ⟨d, hd, rfl⟩ := Option.map_eq_some_iff.1 h
    exact List.forall_mem_singleton.2 (decimalValue?_lt hd)
  | case3 c r ih =>
    obtain ⟨d, hd, h⟩ := Option.bind_eq_some_iff.1 h
    obtain ⟨ds, hds, h⟩ := Option.bind_eq_some_iff.1 h
    cases h
    exact List.forall_mem_cons.2 ⟨decimalValue?_lt hd, ih hds⟩
  | case4 c r _ _ ih =>
    obtain ⟨d, hd, h⟩ := Option.bind_eq_some_iff.1 h
    obtain ⟨ds, hds, h⟩ := Option.bind_eq_some_iff.1 h
    cases h
    exact List.forall_mem_cons.2 ⟨decimalValue?_lt hd, ih hds⟩

theorem ofDigits_lt {ds : List Nat} (h : ∀ d ∈ ds, d < 10) : ofDigits ds < 10 ^ ds.length := by
  induction ds using List.reverseRecOn with
  | nil => decide
  | append_singleton ds d ih =>
    rw [List.forall_mem_append, List.forall_mem_singleton] at h
    have hlt := ih h.1
    have hd : ofDigits [d] = d := by simp [ofDigits]
    rw [ofDigits_append, List.length_append, List.length_singleton, hd, Nat.pow_one,
      Nat.pow_succ 10 ds.length]
    omega

/-- The integers that a text can stand for. -/
theorem length_le_of_integerOfText? {s : String} {n : Int} (h : integerOfText? s = some n) :
    (Nat.toDigits 10 n.natAbs).length ≤ maxDigits := by
  obtain ⟨ds, hds, h⟩ := Option.bind_eq_some_iff.1 h
  obtain ⟨hshort, hn⟩ := Option.ite_none_right_eq_some.1 h
  rw [Nat.length_toDigits_le_iff (by decide) (by decide)]
  have hlt := ofDigits_lt (lt_of_digitRun? hds)
  have habs : n.natAbs = ofDigits ds := by
    have hn := Option.some.inj hn
    split at hn <;> omega
  rw [habs]
  exact hlt.trans_le (Nat.pow_le_pow_right (by decide) hshort)

theorem natAbs_truncate?_lt {negative : Bool} {m : Nat} {e : Int} (h : Canonical m e) {k : Nat}
    (he : e ≤ k) {n : Int} (hn : (Binary64.finite negative m e h).truncate? = some n) :
    n.natAbs < 2 ^ (53 + k) := by
  have hm : m < 2 ^ 53 := h.1
  have habs (i : Nat) : (if negative then -(i : Int) else i).natAbs = i := by
    split_ifs <;> omega
  simp only [Binary64.truncate?, Option.some.injEq] at hn
  rw [← hn, habs, Nat.pow_add]
  split_ifs
  · exact Nat.mul_lt_mul_of_lt_of_le hm (Nat.pow_le_pow_right (by decide) (by omega))
      (Nat.two_pow_pos _)
  · exact Nat.lt_of_le_of_lt (Nat.div_le_self _ _)
      (Nat.lt_of_lt_of_le hm (Nat.le_mul_of_pos_right _ (Nat.two_pow_pos _)))

theorem length_le_of_lt {n k : Nat} (h : n < 2 ^ k) (hk : k ≤ maxDigits) :
    (Nat.toDigits 10 n).length ≤ maxDigits := by
  rw [Nat.length_toDigits_le_iff (by decide) (by decide)]
  calc n < 2 ^ k := h
    _ ≤ 10 ^ k := Nat.pow_le_pow_left (by decide) _
    _ ≤ 10 ^ maxDigits := Nat.pow_le_pow_right (by decide) hk

/-- The integers that a number of 64 bits can stand for. -/
theorem length_le_of_truncate? {x : Binary64} {n : Int} (h : x.truncate? = some n) :
    (Nat.toDigits 10 n.natAbs).length ≤ maxDigits := by
  cases x with
  | nan => cases h
  | infinite negative => cases h
  | finite negative m e hcanonical =>
    have hlt := natAbs_truncate?_lt hcanonical (k := 971) hcanonical.2.2.2 h
    exact length_le_of_lt hlt (by decide)

theorem isDecimal_of_mem_zeros {n : Nat} : ∀ c ∈ List.replicate n '0', isDecimal c = true := by
  intro c hc
  rw [List.eq_of_mem_replicate hc]
  decide

/-- A sign before a number makes a numeral of it. -/
theorem isNumeral_signed {cs : List Char} (negative : Bool)
    (h : ∃ body es, IsFixed body ∧ isExponent es = true ∧ cs = body ++ es) :
    isNumeral (if negative then '-' :: cs else cs) = true := by
  obtain ⟨body, es, hbody, hes, rfl⟩ := h
  cases negative with
  | true => exact isNumeral_append (by decide : ['-'] ∈ numeralSigns) hbody hes
  | false => exact isNumeral_append (by decide : [] ∈ numeralSigns) hbody hes

/-- An exponent with its sign. -/
theorem isExponent_signed {mark : Char} (hmark : mark ∈ ['e', 'E']) (negative : Prop)
    [Decidable negative] {ds : List Char} (hds : IsDigits ds) :
    isExponent (mark :: (if negative then '-' else '+') :: ds) = true := by
  split_ifs
  · exact isExponent_mark hmark (by decide : ['-'] ∈ numeralSigns) hds
  · exact isExponent_mark hmark (by decide : ['+'] ∈ numeralSigns) hds

/-- Digits with a point after the first of them. -/
theorem isFixed_mantissa {d : Char} {ds : List Char} (h : ∀ c ∈ d :: ds, isDecimal c = true) :
    IsFixed (d :: '.' :: ds) := by
  rw [List.forall_mem_cons] at h
  exact .point (List.forall_mem_singleton.2 h.1) h.2 (List.cons_ne_nil _ _)

theorem isFixed_small {n : Nat} {ds : List Char} (h : ∀ c ∈ ds, isDecimal c = true) :
    IsFixed ('0' :: '.' :: (List.replicate n '0' ++ ds)) := by
  refine isFixed_mantissa (List.forall_mem_cons.2 ⟨by decide, ?_⟩)
  exact List.forall_mem_append.2 ⟨isDecimal_of_mem_zeros, h⟩

/-- The text of a finite decimal is a numeral. -/
theorem isNumeral_decimalText (negative : Bool) (coefficient : Nat) (power : Int) :
    isNumeral (Decimal.finite negative coefficient power).text.toList = true := by
  have hdigits := isDigits_toDigits coefficient
  rw [Decimal.text, String.toList_ofList]
  refine isNumeral_signed negative ?_
  generalize Nat.toDigits 10 coefficient = digits at hdigits ⊢
  dsimp only
  by_cases hplain : power ≤ 0 ∧ -6 < digits.length + power
  · rw [if_pos hplain]
    split_ifs
    · exact ⟨digits, [], .whole hdigits, rfl, (List.append_nil _).symm⟩
    · exact ⟨_, [], isFixed_small hdigits.2, rfl, (List.append_nil _).symm⟩
    · refine ⟨_, [], .point (fun c hc => hdigits.2 c (List.mem_of_mem_take hc))
        (fun c hc => hdigits.2 c (List.mem_of_mem_drop hc)) ?_, rfl, (List.append_nil _).symm⟩
      rw [List.take_append_drop]
      exact hdigits.1
  · rw [if_neg hplain]
    have hmark : 'E' ∈ ['e', 'E'] := by decide
    refine ⟨_, _, ?_, isExponent_signed hmark _ (isDigits_toDigits _), rfl⟩
    split
    · exact isFixed_mantissa hdigits.2
    · exact .whole hdigits

theorem isDecimal_of_mem_shortestDigits {m : Nat} {e : Int} :
    ∀ c ∈ (shortestDigits m e).1, isDecimal c = true := by
  intro c hc
  simp only [shortestDigits, List.mem_reverse] at hc
  exact isDecimal_of_mem_toDigits c (List.mem_reverse.1 ((List.dropWhile_sublist _).subset hc))

theorem exists_place {style : NumberStyle} {digits : List Char}
    (h : ∀ c ∈ digits, isDecimal c = true) (point : Int) :
    ∃ body es, IsFixed body ∧ isExponent es = true ∧ style.place digits point = body ++ es := by
  unfold NumberStyle.place
  dsimp only
  by_cases hplain : style.minPoint ≤ point ∧ point ≤ style.maxPoint
  · rw [if_pos hplain]
    split_ifs
    · exact ⟨_, [], isFixed_small h, rfl, (List.append_nil _).symm⟩
    · have hzero : ∀ c ∈ ['0'], isDecimal c = true := List.forall_mem_singleton.2 (by decide)
      refine ⟨_, [], .point ?_ hzero (by simp), rfl, (List.append_nil _).symm⟩
      exact List.forall_mem_append.2
        ⟨fun c hc => h c (List.mem_of_mem_take hc), isDecimal_of_mem_zeros⟩
    · rename_i hfraction
      refine ⟨_, [], .point ?_ (fun c hc => h c (List.mem_of_mem_drop hc)) (by simp [hfraction]),
        rfl, (List.append_nil _).symm⟩
      exact List.forall_mem_append.2
        ⟨fun c hc => h c (List.mem_of_mem_take hc), isDecimal_of_mem_zeros⟩
  · rw [if_neg hplain]
    have hmark : 'e' ∈ ['e', 'E'] := by decide
    have hexponent (n k : Nat) : IsDigits (List.replicate k '0' ++ Nat.toDigits 10 n) :=
      ⟨by simp [Nat.toDigits_ne_nil],
        List.forall_mem_append.2 ⟨isDecimal_of_mem_zeros, isDecimal_of_mem_toDigits⟩⟩
    refine ⟨_, _, ?_, isExponent_signed hmark _ (hexponent _ _), rfl⟩
    split
    · exact .whole ⟨List.cons_ne_nil _ _, List.forall_mem_singleton.2 (by decide)⟩
    · exact .whole ⟨List.cons_ne_nil _ _, h⟩
    · exact isFixed_mantissa h

/-- The text of a finite number of 64 bits is a numeral. -/
theorem isNumeral_text (negative : Bool) (m : Nat) (e : Int) (h : Canonical m e) :
    isNumeral (Binary64.finite negative m e h).text.toList = true := by
  rw [Binary64.text, String.toList_ofList]
  refine isNumeral_signed negative ?_
  split_ifs
  · have hzeros : ∀ c ∈ ['0', '0'], isDecimal c = true :=
      List.forall_iff_forall_mem.1 (by decide)
    exact ⟨['0', '.', '0'], [], isFixed_mantissa hzeros, rfl, rfl⟩
  · exact exists_place isDecimal_of_mem_shortestDigits _

/-- The text of a finite number of 64 bits is no integer: it has a point or an exponent. -/
theorem exists_mark_text (negative : Bool) (m : Nat) (e : Int) (h : Canonical m e) :
    ∃ c ∈ ['.', 'e'], c ∈ (Binary64.finite negative m e h).text.toList := by
  have hsigned {cs : List Char} (hcs : ∃ c ∈ ['.', 'e'], c ∈ cs) :
      ∃ c ∈ ['.', 'e'], c ∈ if negative then '-' :: cs else cs := by
    obtain ⟨c, hc, hmem⟩ := hcs
    exact ⟨c, hc, by cases negative <;> simp [hmem]⟩
  rw [Binary64.text, String.toList_ofList]
  refine hsigned ?_
  split_ifs
  · exact ⟨'.', by decide⟩
  · dsimp only
    unfold NumberStyle.place
    dsimp only
    split_ifs <;> simp

/-- No number, and a word about why: a signal or digits. -/
def Number.Decimal.IsDiagnosis : Decimal → Prop
  | .nan _ signaling payload => signaling = true ∨ payload ≠ 0
  | _ => False

/-- A word is read as a number only if it is one of three. -/
theorem isSome_floatOfText?_word_iff {lead word : List Char} (hlead : lead ∈ numeralSigns)
    (hblank : ∀ c ∈ lead ++ word, isBlank c = false)
    (hhead : ∀ c ∈ word.head?, isDecimal c = false ∧ c ∉ numeralMarks) :
    (floatOfText? (String.ofList (lead ++ word))).isSome ↔
      word.map Char.toLower ∈ ["inf".toList, "infinity".toList, "nan".toList] := by
  have hsign : ∀ c ∈ word.head?, c ≠ '-' ∧ c ≠ '+' := by
    intro c hc
    constructor <;> rintro rfl <;> exact (hhead _ hc).2 (by decide)
  have hparts : decimalParts? word = none := by
    rw [decimalParts?, takeDigits_of_head fun c hc => (hhead c hc).1]
    dsimp only
    split
    · exact absurd (by decide) (hhead _ rfl).2
    · rfl
  unfold floatOfText?
  dsimp only
  rw [String.toList_ofList, trimMargins_of_forall hblank, takeSign_append hlead hsign, hparts]
  simp only [List.mem_cons, List.not_mem_nil, or_false, ← or_assoc]
  split_ifs with hinfinite hnan
  · exact iff_of_true rfl (.inl hinfinite)
  · exact iff_of_true rfl (.inr hnan)
  · exact iff_of_false (by simp) fun h => h.elim hinfinite hnan

theorem nanText (negative signaling : Bool) (payload : Nat) :
    (Decimal.nan negative signaling payload).text =
      String.ofList ((if negative then ['-'] else []) ++
        ((if signaling then ['s'] else []) ++ ['N', 'a', 'N'] ++
          if payload = 0 then [] else Nat.toDigits 10 payload)) := by
  rw [← String.toList_inj, Decimal.text]
  by_cases hpayload : payload = 0 <;> cases negative <;> cases signaling <;>
    simp [hpayload, natText]

/-- The text of a decimal is read as a number unless it is a diagnosis. -/
theorem isSome_floatOfText?_decimalText_iff (d : Decimal) :
    (floatOfText? d.text).isSome ↔ ¬d.IsDiagnosis := by
  have htrim := trimMargins_of_isTokenText (isTokenText_decimalText d)
  cases d with
  | finite negative coefficient power =>
    refine iff_of_true (isSome_floatOfText? ?_) id
    rw [htrim]
    exact isNumeral_decimalText negative coefficient power
  | infinite negative =>
    refine iff_of_true ?_ id
    cases negative <;> decide
  | nan negative signaling payload =>
    have hblank := List.all_eq_true.1 (isTokenText_decimalText (.nan negative signaling payload))
    rw [nanText] at hblank ⊢
    rw [String.toList_ofList] at hblank
    rw [isSome_floatOfText?_word_iff (by cases negative <;> decide)
      fun c hc => isBlank_of_isTokenChar (hblank c hc)]
    · have hlower : Char.toLower 's' = 's' ∧ Char.toLower 'N' = 'n' ∧ Char.toLower 'a' = 'a' := by
        decide
      by_cases hpayload : payload = 0 <;> cases signaling <;>
        simp [Decimal.IsDiagnosis, hpayload, hlower, Nat.toDigits_ne_nil]
    · cases signaling <;> · rintro _ ⟨⟩; decide

theorem ne_null_of_isNumeral {s : String} (h : isNumeral s.toList = true) : s ≠ "null" := by
  rintro rfl
  exact absurd h (by decide)

theorem decimalText_ne_null (d : Decimal) : d.text ≠ "null" := by
  intro h
  cases d with
  | finite negative coefficient power =>
    exact ne_null_of_isNumeral (isNumeral_decimalText negative coefficient power) h
  | infinite negative => cases negative <;> exact absurd h (by decide)
  | nan negative signaling payload =>
    have hmem : 'N' ∈ "null".toList := by
      rw [← h, nanText, String.toList_ofList]
      simp
    exact absurd hmem (by decide)

theorem isTokenText_floatText (x : Binary64) : isTokenText x.text = true := by
  cases x with
  | nan => decide
  | infinite negative => cases negative <;> decide
  | finite negative m e h => exact all_of_isNumeral (isNumeral_text negative m e h)

theorem floatText_ne_null (x : Binary64) : x.text ≠ "null" := by
  cases x with
  | nan => decide
  | infinite negative => cases negative <;> decide
  | finite negative m e h => exact ne_null_of_isNumeral (isNumeral_text negative m e h)

theorem not_isLongInteger_floatText (x : Binary64) : ¬IsLongInteger x.text.toList := by
  intro hlong
  have hnumeral := isNumeral_of_isLongInteger hlong
  cases x with
  | nan => exact absurd hnumeral (by decide)
  | infinite negative => cases negative <;> exact absurd hnumeral (by decide)
  | finite negative m e h =>
    obtain ⟨lead, hlead, ds, htext, hds, -⟩ := hlong
    obtain ⟨c, hc, hmem⟩ := exists_mark_text negative m e h
    have hmarks : ∀ c ∈ ['.', 'e'], isDecimal c = false ∧ c ≠ '-' ∧ c ≠ '+' :=
      List.forall_iff_forall_mem.1 (by decide)
    obtain ⟨hnodigit, hminus, hplus⟩ := hmarks c hc
    rw [htext, List.mem_append] at hmem
    rcases hmem with hmem | hmem
    · exact (eq_of_mem_sign hlead hmem).elim hminus hplus
    · cases hnodigit.symm.trans (hds.2 c hmem)

end EntityQuery
