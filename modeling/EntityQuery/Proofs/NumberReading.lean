import EntityQuery.Proofs.BodyText

/-!
# Numerals that are read as numbers

A numeral is an optional sign and digits of any script, perhaps with a point and an exponent
(`isNumeral_iff`). Every numeral is read as a number of 64 bits (`isSome_floatOfText?`). Digits
alone are read as an integer, unless they are too many (`isSome_integerOfChars?_iff`), and so is a
literal of digits whose type is not known (`numberLiteral_ok_iff`).
-/

namespace EntityQuery

open Number Text

/-- What may stand before the digits of a numeral. -/
def numeralSigns : List (List Char) := [[], ['-'], ['+']]

/-- What stands before the digits is a sign. -/
theorem eq_of_mem_sign {lead : List Char} (hlead : lead ∈ numeralSigns) {c : Char}
    (hc : c ∈ lead) : c = '-' ∨ c = '+' := by
  simp only [numeralSigns, List.mem_cons, List.not_mem_nil, or_false] at hlead
  rcases hlead with rfl | rfl | rfl
  · cases hc
  · exact .inl (List.mem_singleton.1 hc)
  · exact .inr (List.mem_singleton.1 hc)

theorem isBlank_of_isDecimal {c : Char} (h : isDecimal c = true) : isBlank c = false :=
  isBlank_of_isTokenChar (isTokenChar_of_isDecimal h)

theorem takeSign_of_head {cs : List Char} (h : ∀ c ∈ cs.head?, c ≠ '-' ∧ c ≠ '+') :
    takeSign cs = (false, cs) := by
  unfold takeSign
  split
  · exact absurd rfl (h '-' rfl).1
  · exact absurd rfl (h '+' rfl).2
  · rfl

theorem takeSign_append {lead cs : List Char} (hlead : lead ∈ numeralSigns)
    (h : ∀ c ∈ cs.head?, c ≠ '-' ∧ c ≠ '+') : (takeSign (lead ++ cs)).2 = cs := by
  simp only [numeralSigns, List.mem_cons, List.not_mem_nil, or_false] at hlead
  rcases hlead with rfl | rfl | rfl
  · rw [List.nil_append, takeSign_of_head h]
  · rfl
  · rfl

theorem exists_sign (cs : List Char) : ∃ lead ∈ numeralSigns, cs = lead ++ (takeSign cs).2 := by
  unfold takeSign
  split
  · exact ⟨['-'], by decide, rfl⟩
  · exact ⟨['+'], by decide, rfl⟩
  · exact ⟨[], by decide, rfl⟩

theorem IsDigits.ne_sign {ds : List Char} (h : IsDigits ds) :
    ∀ c ∈ ds.head?, c ≠ '-' ∧ c ≠ '+' := by
  intro c hc
  have hdecimal := h.2 c (List.mem_of_mem_head? hc)
  constructor <;> rintro rfl <;> exact absurd hdecimal (by decide)

theorem exists_digitRun? {cs : List Char} (h : IsDigits cs) :
    ∃ ds, digitRun? cs = some ds ∧ ds.length = cs.length := by
  obtain ⟨hne, hdigits⟩ := h
  induction cs with
  | nil => exact absurd rfl hne
  | cons c cs ih =>
    rw [List.forall_mem_cons] at hdigits
    obtain ⟨n, hn⟩ := Option.isSome_iff_exists.1 hdigits.1
    cases cs with
    | nil => exact ⟨[n], by rw [digitRun?, hn]; rfl, rfl⟩
    | cons d cs =>
      have hscore : d ≠ '_' := by
        rintro rfl
        exact absurd (hdigits.2 _ List.mem_cons_self) (by decide)
      obtain ⟨ds, hds, hlength⟩ := ih (List.cons_ne_nil _ _) hdigits.2
      refine ⟨n :: ds, ?_, congrArg (· + 1) hlength⟩
      rw [digitRun?, hn, hds]
      · rfl
      · simp
      · simp [hscore]

theorem isBlank_of_mem_signed {lead ds : List Char} (hlead : lead ∈ numeralSigns)
    (h : ∀ c ∈ ds, isDecimal c = true) : ∀ c ∈ lead ++ ds, isBlank c = false := by
  intro c hc
  rcases List.mem_append.1 hc with hc | hc
  · rcases eq_of_mem_sign hlead hc with rfl | rfl <;> decide
  · exact isBlank_of_isDecimal (h c hc)

/-- Digits behind a sign are read as an integer unless they are too many. -/
theorem isSome_integerOfChars?_iff {lead ds : List Char} (hlead : lead ∈ numeralSigns)
    (h : IsDigits ds) : (integerOfChars? (lead ++ ds)).isSome ↔ ds.length ≤ maxDigits := by
  obtain ⟨ns, hns, hlength⟩ := exists_digitRun? h
  rw [integerOfChars?, trimMargins_of_forall (isBlank_of_mem_signed hlead h.2), ← hlength]
  dsimp only
  rw [takeSign_append hlead h.ne_sign, hns]
  by_cases hshort : ns.length ≤ maxDigits <;> simp [hshort]

theorem takeDigits_cons {c : Char} {n : Nat} {r : List Char} (hn : decimalValue? c = some n)
    (hr : '_' ∉ r.head?) : takeDigits (c :: r) = (n :: (takeDigits r).1, (takeDigits r).2) := by
  rw [takeDigits, hn]
  rintro d r rfl
  exact hr rfl

theorem takeDigits_of_head {cs : List Char} (h : ∀ c ∈ cs.head?, isDecimal c = false) :
    takeDigits cs = ([], cs) := by
  cases cs with
  | nil => rfl
  | cons c r =>
    have hnone : decimalValue? c = none := by simpa [isDecimal] using h c rfl
    unfold takeDigits
    split
    · contradiction
    · rename_i heq
      cases heq
      rw [hnone]
    · rename_i heq
      cases heq
      rw [hnone]

/-- Digits are taken up to what is neither a digit nor an underscore. -/
theorem exists_takeDigits {ds rest : List Char} (hds : ∀ c ∈ ds, isDecimal c = true)
    (hrest : ∀ c ∈ rest.head?, isDecimal c = false ∧ c ≠ '_') :
    ∃ ns, takeDigits (ds ++ rest) = (ns, rest) ∧ ns.length = ds.length := by
  induction ds with
  | nil => exact ⟨[], takeDigits_of_head fun c hc => (hrest c hc).1, rfl⟩
  | cons c ds ih =>
    rw [List.forall_mem_cons] at hds
    obtain ⟨n, hn⟩ := Option.isSome_iff_exists.1 hds.1
    obtain ⟨ns, hns, hlength⟩ := ih hds.2
    have hscore : '_' ∉ (ds ++ rest).head? := by
      intro h
      cases ds with
      | nil => exact (hrest _ h).2 rfl
      | cons d ds =>
        cases h
        exact absurd (hds.2 _ List.mem_cons_self) (by decide)
    exact ⟨n :: ns, by rw [List.cons_append, takeDigits_cons hn hscore, hns],
      congrArg (· + 1) hlength⟩

/-- Digits with or without a point among them. -/
inductive IsFixed : List Char → Prop
  | whole {ds : List Char} (h : IsDigits ds) : IsFixed ds
  | point {ds fs : List Char} (hds : ∀ c ∈ ds, isDecimal c = true)
      (hfs : ∀ c ∈ fs, isDecimal c = true) (hne : ds ++ fs ≠ []) : IsFixed (ds ++ '.' :: fs)

theorem isExponent_cases {es : List Char} (h : isExponent es = true) :
    es = [] ∨ ∃ mark ∈ ['e', 'E'], ∃ lead ∈ numeralSigns, ∃ ds, IsDigits ds ∧
      es = mark :: (lead ++ ds) := by
  cases es with
  | nil => exact .inl rfl
  | cons mark r =>
    simp only [isExponent, Bool.and_eq_true, Bool.or_eq_true, beq_iff_eq, bne_iff_ne] at h
    obtain ⟨⟨hmark, hne⟩, hrest⟩ := h
    obtain ⟨lead, hlead, hr⟩ := exists_sign r
    have happend := append_spanDecimals (takeSign r).2
    rw [hrest, List.append_nil] at happend
    refine .inr ⟨mark, by simpa using hmark, lead, hlead, _, isDigits_spanDecimals hne, ?_⟩
    rw [happend, ← hr]

theorem isExponent_mark {mark : Char} (hmark : mark ∈ ['e', 'E']) {lead ds : List Char}
    (hlead : lead ∈ numeralSigns) (hds : IsDigits ds) :
    isExponent (mark :: (lead ++ ds)) = true := by
  have hspan : spanDecimals ds = (ds, []) := by
    have hspan : spanDecimals (ds ++ []) = (ds, []) := spanDecimals_append hds.2 nofun
    rwa [List.append_nil] at hspan
  simp only [isExponent, takeSign_append hlead hds.ne_sign, hspan]
  simpa [hds.1] using hmark

/-- A numeral goes on with an exponent neither as digits do nor with a point. -/
theorem head_of_isExponent {es : List Char} (h : isExponent es = true) :
    ∀ c ∈ es.head?, isDecimal c = false ∧ c ≠ '_' ∧ c ≠ '.' := by
  rcases isExponent_cases h with rfl | ⟨mark, hmark, lead, -, ds, -, rfl⟩
  · nofun
  · rintro _ ⟨⟩
    have hmarks : ∀ c ∈ ['e', 'E'], isDecimal c = false ∧ c ≠ '_' ∧ c ≠ '.' :=
      List.forall_iff_forall_mem.1 (by decide)
    exact hmarks mark hmark

theorem isSome_exponent? {es : List Char} (h : isExponent es = true) : (exponent? es).isSome := by
  rcases isExponent_cases h with rfl | ⟨mark, hmark, lead, hlead, ds, hds, rfl⟩
  · rfl
  · obtain ⟨ns, hns, hlength⟩ : ∃ ns, takeDigits (ds ++ []) = (ns, []) ∧ ns.length = ds.length :=
      exists_takeDigits hds.2 nofun
    have hmark : mark = 'e' ∨ mark = 'E' := by simpa using hmark
    have hne : ns ≠ [] := by
      rintro rfl
      exact hds.1 (List.length_eq_zero_iff.1 hlength.symm)
    obtain ⟨n, ns, rfl⟩ := List.exists_cons_of_ne_nil hne
    rw [List.append_nil] at hns
    simp only [exponent?, if_pos hmark, takeSign_append hlead hds.ne_sign, hns]
    rfl

theorem IsFixed.ne_sign {body : List Char} (h : IsFixed body) (rest : List Char) :
    ∀ c ∈ (body ++ rest).head?, c ≠ '-' ∧ c ≠ '+' := by
  have hdigit {c : Char} (hc : isDecimal c = true) : c ≠ '-' ∧ c ≠ '+' := by
    constructor <;> rintro rfl <;> exact absurd hc (by decide)
  cases h with
  | whole h =>
    obtain ⟨d, ds, rfl⟩ := List.exists_cons_of_ne_nil h.1
    rintro _ ⟨⟩
    exact hdigit (h.2 _ List.mem_cons_self)
  | @point ds fs hds hfs hne =>
    cases ds with
    | nil =>
      rintro _ ⟨⟩
      decide
    | cons d ds =>
      rintro _ ⟨⟩
      exact hdigit (hds _ List.mem_cons_self)

theorem isNumeral_append {lead body es : List Char} (hlead : lead ∈ numeralSigns)
    (hbody : IsFixed body) (hes : isExponent es = true) :
    isNumeral (lead ++ (body ++ es)) = true := by
  have hhead := head_of_isExponent hes
  unfold isNumeral
  rw [takeSign_append hlead (hbody.ne_sign es)]
  cases hbody with
  | @whole ds h =>
    rw [spanDecimals_append h.2 fun c hc => (hhead c hc).1]
    dsimp only
    split
    · exact absurd rfl (hhead _ rfl).2.2
    · simp [h.1, hes]
  | @point ds fs hds hfs hne =>
    have hpoint : ∀ c ∈ ('.' :: (fs ++ es)).head?, isDecimal c = false := by
      rintro _ ⟨⟩
      decide
    rw [List.append_assoc, List.cons_append, spanDecimals_append hds hpoint]
    simp only [spanDecimals_append hfs fun c hc => (hhead c hc).1, hes, Bool.and_true,
      Bool.or_eq_true, bne_iff_ne]
    rwa [ne_eq, List.append_eq_nil_iff, not_and_or] at hne

/-- A numeral is a sign, digits with or without a point, and an exponent, of which only the digits
must be there. -/
theorem isNumeral_iff {cs : List Char} : isNumeral cs = true ↔
    ∃ lead ∈ numeralSigns, ∃ body es, IsFixed body ∧ isExponent es = true ∧
      cs = lead ++ (body ++ es) := by
  constructor
  · intro h
    obtain ⟨lead, hlead, hcs⟩ := exists_sign cs
    unfold isNumeral at h
    dsimp only at h
    have happend := append_spanDecimals (takeSign cs).2
    split at h
    · rename_i r hr
      simp only [Bool.and_eq_true, Bool.or_eq_true, bne_iff_ne, ne_eq, ← not_and_or,
        ← List.append_eq_nil_iff] at h
      refine ⟨lead, hlead, _, _, .point isDecimal_of_mem_spanDecimals
        isDecimal_of_mem_spanDecimals h.1, h.2, ?_⟩
      rw [List.append_assoc, List.cons_append, append_spanDecimals, ← hr, happend, ← hcs]
    · simp only [Bool.and_eq_true, bne_iff_ne] at h
      exact ⟨lead, hlead, _, _, .whole (isDigits_spanDecimals h.1), h.2, by rw [happend, ← hcs]⟩
  · rintro ⟨lead, hlead, body, es, hbody, hes, rfl⟩
    exact isNumeral_append hlead hbody hes

theorem isSome_decimalParts? {body es : List Char} (hbody : IsFixed body)
    (hes : isExponent es = true) : (decimalParts? (body ++ es)).isSome := by
  have hhead := head_of_isExponent hes
  have hstop : ∀ c ∈ es.head?, isDecimal c = false ∧ c ≠ '_' :=
    fun c hc => ⟨(hhead c hc).1, (hhead c hc).2.1⟩
  obtain ⟨e, he⟩ := Option.isSome_iff_exists.1 (isSome_exponent? hes)
  unfold decimalParts?
  cases hbody with
  | @whole ds h =>
    obtain ⟨ns, hns, hlength⟩ := exists_takeDigits h.2 hstop
    have hne : ns ≠ [] := by
      rintro rfl
      exact h.1 (List.length_eq_zero_iff.1 hlength.symm)
    rw [hns]
    dsimp only
    split
    · exact absurd rfl (hhead _ rfl).2.2
    · simp [hne, he]
  | @point ds fs hds hfs hne =>
    have hpoint : ∀ c ∈ ('.' :: (fs ++ es)).head?, isDecimal c = false ∧ c ≠ '_' := by
      rintro _ ⟨⟩
      decide
    obtain ⟨ns, hns, hlength⟩ := exists_takeDigits hds hpoint
    obtain ⟨ms, hms, hlength'⟩ := exists_takeDigits hfs hstop
    have hsome : ¬(ns = [] ∧ ms = []) := by
      rintro ⟨rfl, rfl⟩
      exact hne (by rw [List.length_eq_zero_iff.1 hlength.symm,
        List.length_eq_zero_iff.1 hlength'.symm]; rfl)
    rw [List.append_assoc, List.cons_append, hns]
    simp only [hms, if_neg hsome, he, Option.map_some, Option.isSome_some]

/-- A numeral is read as a number. -/
theorem isSome_floatOfText? {s : String} (h : isNumeral (trimMargins s.toList) = true) :
    (floatOfText? s).isSome := by
  obtain ⟨lead, hlead, body, es, hbody, hes, hs⟩ := isNumeral_iff.1 h
  unfold floatOfText?
  dsimp only
  rw [hs, takeSign_append hlead (hbody.ne_sign es)]
  split_ifs
  · rfl
  · rfl
  · rw [Option.isSome_map]
    exact isSome_decimalParts? hbody hes

theorem mem_isFixed {body : List Char} (h : IsFixed body) {c : Char} (hc : c ∈ body) :
    isDecimal c = true ∨ c = '.' := by
  cases h with
  | whole h => exact .inl (h.2 c hc)
  | point hds hfs _ =>
    rcases List.mem_append.1 hc with hc | hc
    · exact .inl (hds c hc)
    · exact (List.mem_cons.1 hc).elim .inr fun hc => .inl (hfs c hc)

/-- The marks of a numeral beside its digits. -/
def numeralMarks : List Char := ['.', 'e', 'E', '+', '-']

theorem mem_numeral {cs : List Char} (h : isNumeral cs = true) {c : Char} (hc : c ∈ cs) :
    isDecimal c = true ∨ c ∈ numeralMarks := by
  have hsigns {lead : List Char} (hlead : lead ∈ numeralSigns) (hc : c ∈ lead) :
      c ∈ numeralMarks := by
    rcases eq_of_mem_sign hlead hc with rfl | rfl <;> decide
  obtain ⟨lead, hlead, body, es, hbody, hes, rfl⟩ := isNumeral_iff.1 h
  simp only [List.mem_append] at hc
  rcases hc with hc | hc | hc
  · exact .inr (hsigns hlead hc)
  · exact (mem_isFixed hbody hc).imp_right fun hc => by rw [hc]; decide
  · rcases isExponent_cases hes with rfl | ⟨mark, hmark, lead, hlead, ds, hds, rfl⟩
    · cases hc
    · have hmarks : ∀ c ∈ ['e', 'E'], c ∈ numeralMarks :=
        List.forall_iff_forall_mem.1 (by decide)
      simp only [List.mem_cons, List.mem_append] at hc
      rcases hc with rfl | hc | hc
      · exact .inr (hmarks _ hmark)
      · exact .inr (hsigns hlead hc)
      · exact .inl (hds.2 c hc)

/-- An integer of more digits than are read. -/
def IsLongInteger (cs : List Char) : Prop :=
  ∃ lead ∈ numeralSigns, ∃ ds, cs = lead ++ ds ∧ IsDigits ds ∧ maxDigits < ds.length

theorem isLongInteger_append_iff {lead ds : List Char} (hlead : lead ∈ numeralSigns)
    (hds : IsDigits ds) : IsLongInteger (lead ++ ds) ↔ maxDigits < ds.length := by
  constructor
  · rintro ⟨lead', hlead', ds', heq, hds', hlong⟩
    have hsame := congrArg (fun cs => (takeSign cs).2) heq
    simp only [takeSign_append hlead hds.ne_sign, takeSign_append hlead' hds'.ne_sign] at hsame
    rwa [hsame]
  · exact fun hlong => ⟨lead, hlead, ds, rfl, hds, hlong⟩

theorem isNumeral_of_isLongInteger {cs : List Char} (h : IsLongInteger cs) :
    isNumeral cs = true := by
  obtain ⟨lead, hlead, ds, rfl, hds, -⟩ := h
  exact isNumeral_iff.2 ⟨lead, hlead, ds, [], .whole hds, rfl, by rw [List.append_nil]⟩

/-- A numeral without type is read unless it is an integer that is too long. -/
theorem numberLiteral_ok_iff {s : String} (h : isNumeral s.toList = true) :
    (∃ w, Codec.numberLiteral s = .ok w) ↔ ¬IsLongInteger s.toList := by
  have htrim : trimMargins s.toList = s.toList := trimMargins_of_isTokenText (all_of_isNumeral h)
  obtain ⟨x, hx⟩ := Option.isSome_iff_exists.1 (isSome_floatOfText? (htrim.symm ▸ h))
  obtain ⟨lead, hlead, body, es, hbody, hes, hs⟩ := isNumeral_iff.1 h
  have hhead := hbody.ne_sign es
  have hdrop : (s.toList.dropWhile fun c => c == '+' || c == '-') = body ++ es := by
    have hsigns : ∀ c ∈ lead, (c == '+' || c == '-') = true := by
      intro c hc
      rcases eq_of_mem_sign hlead hc with rfl | rfl <;> rfl
    rw [hs, List.dropWhile_append_of_pos hsigns]
    cases hcs : body ++ es with
    | nil => rfl
    | cons c r =>
      rw [hcs] at hhead
      rw [List.dropWhile_cons_of_neg (by simpa [and_comm] using hhead c rfl)]
  unfold Codec.numberLiteral
  dsimp only
  rw [hdrop]
  by_cases hall : body ++ es ≠ [] ∧ (body ++ es).all isDigit = true
  · have hdigits : IsDigits (body ++ es) := by
      have hmarks : ∀ c ∈ numeralMarks, isDigit c = false :=
        List.forall_iff_forall_mem.1 (by decide)
      refine ⟨hall.1, fun c hc => (mem_numeral h (hs ▸ List.mem_append_right lead hc)).resolve_right
        fun hmark => ?_⟩
      cases (hmarks c hmark).symm.trans (List.all_eq_true.1 hall.2 c hc)
    rw [if_pos hall, hs, isLongInteger_append_iff hlead hdigits, Nat.not_lt,
      ← isSome_integerOfChars?_iff hlead hdigits, ← hs, integerOfText?]
    cases integerOfChars? s.toList <;> simp
  · rw [if_neg hall, hx]
    refine iff_of_true ⟨_, rfl⟩ ?_
    rintro ⟨lead', hlead', ds, heq, hds, -⟩
    have hsame : body ++ es = ds := by
      rw [← takeSign_append hlead hhead, ← hs, heq, takeSign_append hlead' hds.ne_sign]
    rw [hsame] at hall
    exact hall ⟨hds.1, List.all_eq_true.2 fun c hc => by rw [isDigit, hds.2 c hc, Bool.true_or]⟩

end EntityQuery
