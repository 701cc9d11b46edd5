import EntityQuery.Proofs.Likeness

/-!
# When the values of a column have an order

Whether two values compare as numbers or by their texts depends on both of them, so three values may
be compared by two rules, and an order need not come of it. The comparison is a total preorder on
some values (`Value.OrderedOn`) exactly if each of them can be compared, a number that is none meets
equal numbers only, and numbers with a text between their own texts compare as these do
(`Value.orderedOn_iff`).
-/

namespace EntityQuery

open Number

/-- What is not less than something that is not less than a third is not less than the third; but
everything is beside `nan`. -/
theorem Number.Binary64.not_lt_trans {x y z : Binary64} (hy : y ≠ .nan) (hyx : y.lt x = false)
    (hzy : z.lt y = false) : z.lt x = false := by
  cases y with
  | nan => exact absurd rfl hy
  | infinite b =>
    cases x with
    | nan => cases z <;> rfl
    | infinite a =>
      cases z with
      | nan => rfl
      | infinite c => cases a <;> cases b <;> cases c <;> simp_all [Binary64.lt]
      | finite => cases a <;> cases b <;> simp_all [Binary64.lt]
    | finite =>
      cases z with
      | nan => rfl
      | infinite c => cases b <;> cases c <;> simp_all [Binary64.lt]
      | finite => cases b <;> simp_all [Binary64.lt]
  | finite b n f hn =>
    cases x with
    | nan => cases z <;> rfl
    | infinite a =>
      cases z with
      | nan => rfl
      | infinite c => cases a <;> cases c <;> simp_all [Binary64.lt]
      | finite => cases a <;> simp_all [Binary64.lt]
    | finite a m e hm =>
      cases z with
      | nan => rfl
      | infinite c => simpa [Binary64.lt] using hzy
      | finite c k g hk =>
        simp only [Binary64.lt, decide_eq_false_iff_not] at hyx hzy ⊢
        omega

namespace Value

variable {v w x y t : Value} {xs : List Value}

/-- How two values compare, where they can be compared. -/
def compare? (v w : Value) : Option Ordering :=
  if v.incomparable w then none else some (v.compare w)

/-- A value compares with another and does not come after it. -/
def AtMost (v w : Value) : Prop := v.compare? w = some .lt ∨ v.compare? w = some .eq

/-- The comparison is a total preorder on some values: any two of them can be compared, with
opposite results from both sides, and what is at most something that is at most a third is at most
the third. -/
structure OrderedOn (xs : List Value) : Prop where
  swap : ∀ v ∈ xs, ∀ w ∈ xs, ∃ o, v.compare? w = some o ∧ w.compare? v = some o.swap
  trans : ∀ v ∈ xs, ∀ w ∈ xs, ∀ x ∈ xs, AtMost v w → AtMost w x → AtMost v x

/-- Whether a value reads as a number, be it one that is none. -/
def isNumber (v : Value) : Bool := v.number?.isSome

/-- The values that read as numbers. -/
def numbers (xs : List Value) : List Value := xs.filter (·.isNumber)

/-- The values that do not. -/
def texts (xs : List Value) : List Value := xs.filter (!·.isNumber)

/-- The two rules of comparison do not meet in some values. -/
structure RulesApart (xs : List Value) : Prop where
  inRange : ∀ v ∈ xs, v.isOutOfRange = false
  besideNan : ∀ n ∈ numbers xs, n.number? = some .nan → ∀ x ∈ numbers xs, ∀ y ∈ numbers xs,
    x.compare y = .eq
  aroundText : ∀ t ∈ texts xs, ∀ x ∈ numbers xs, ∀ y ∈ numbers xs,
    x.text ≤ t.text → t.text ≤ y.text → x.compare y = compareTexts x y

instance : Decidable (RulesApart xs) :=
  decidable_of_iff ((∀ v ∈ xs, v.isOutOfRange = false) ∧
    (∀ n ∈ numbers xs, n.number? = some .nan → ∀ x ∈ numbers xs, ∀ y ∈ numbers xs,
      x.compare y = .eq) ∧
    ∀ t ∈ texts xs, ∀ x ∈ numbers xs, ∀ y ∈ numbers xs,
      x.text ≤ t.text → t.text ≤ y.text → x.compare y = compareTexts x y)
    ⟨fun ⟨hrange, hnan, htext⟩ => ⟨hrange, hnan, htext⟩,
      fun h => ⟨h.inRange, h.besideNan, h.aroundText⟩⟩

theorem mem_numbers : v ∈ numbers xs ↔ v ∈ xs ∧ v.isNumber = true := List.mem_filter

theorem mem_texts : v ∈ texts xs ↔ v ∈ xs ∧ v.isNumber = false := by
  rw [texts, List.mem_filter, Bool.not_eq_true']

theorem compare_of_number? {m n : Binary64} (hv : v.number? = some m) (hw : w.number? = some n) :
    v.compare w ≠ .gt ↔ n.lt m = false := by
  rw [compare, hv, hw]
  dsimp only
  split_ifs <;> simp_all

theorem compare_of_nan (hv : v.number? = some .nan) (hw : w.isNumber) : v.compare w = .eq := by
  obtain ⟨n, hn⟩ := Option.isSome_iff_exists.1 hw
  rw [compare, hv, hn]
  cases n <;> rfl

/-- Values of which one is no number compare by their texts. -/
theorem compare_ne_gt_iff (h : v.isNumber = false ∨ w.isNumber = false) :
    v.compare w ≠ .gt ↔ v.text ≤ w.text := by
  simp only [isNumber, Option.isSome_eq_false_iff, Option.isNone_iff_eq_none] at h
  rw [ne_eq, compare_eq_gt_iff h, String.not_lt]

theorem compareTexts_ne_gt_iff : v.compareTexts w ≠ .gt ↔ v.text ≤ w.text := by
  rw [ne_eq, compareTexts_eq_gt_iff, String.not_lt]

theorem compare_eq_eq_of_ne_gt (hvw : v.compare w ≠ .gt) (hwv : w.compare v ≠ .gt) :
    v.compare w = .eq := by
  rw [compare_swap v w] at hwv
  revert hvw hwv
  cases v.compare w <;> simp

theorem atMost_iff (hv : v.isOutOfRange = false) (hw : w.isOutOfRange = false) :
    AtMost v w ↔ v.compare w ≠ .gt := by
  rw [AtMost, compare?, incomparable, hv, hw]
  cases v.compare w <;> simp

namespace RulesApart

theorem numbers_trans (h : RulesApart xs) (hv : v ∈ numbers xs) (hw : w ∈ numbers xs)
    (hx : x ∈ numbers xs) (hvw : v.compare w ≠ .gt) (hwx : w.compare x ≠ .gt) :
    v.compare x ≠ .gt := by
  obtain ⟨l, hl⟩ := Option.isSome_iff_exists.1 (mem_numbers.1 hv).2
  obtain ⟨m, hm⟩ := Option.isSome_iff_exists.1 (mem_numbers.1 hw).2
  obtain ⟨n, hn⟩ := Option.isSome_iff_exists.1 (mem_numbers.1 hx).2
  by_cases hnan : m = .nan
  · rw [h.besideNan w hw (hnan ▸ hm) v hv x hx]
    exact Ordering.noConfusion
  · rw [compare_of_number? hl hm] at hvw
    rw [compare_of_number? hm hn] at hwx
    exact (compare_of_number? hl hn).2 (Binary64.not_lt_trans hnan hvw hwx)

/-- Numbers on the two sides of a text that compare one way have their texts in this order. -/
theorem text_le_of_around (h : RulesApart xs) (ht : t ∈ texts xs) (hx : x ∈ numbers xs)
    (hy : y ∈ numbers xs) (hxy : x.compare y ≠ .gt) (hyt : y.text ≤ t.text)
    (htx : t.text ≤ x.text) : x.text ≤ y.text := by
  rw [compare_swap, h.aroundText t ht y hy x hx hyt htx, ← compareTexts_swap] at hxy
  exact compareTexts_ne_gt_iff.1 hxy

/-- The cases are which of the three values are numbers. -/
theorem compare_trans (h : RulesApart xs) (hv : v ∈ xs) (hw : w ∈ xs) (hx : x ∈ xs)
    (hvw : v.compare w ≠ .gt) (hwx : w.compare x ≠ .gt) : v.compare x ≠ .gt := by
  cases hvn : v.isNumber <;> cases hwn : w.isNumber <;> cases hxn : x.isNumber
  case true.true.true =>
    exact h.numbers_trans (mem_numbers.2 ⟨hv, hvn⟩) (mem_numbers.2 ⟨hw, hwn⟩)
      (mem_numbers.2 ⟨hx, hxn⟩) hvw hwx
  case true.true.false =>
    rw [compare_ne_gt_iff (.inr hxn)] at hwx ⊢
    rcases String.le_total v.text x.text with hvx | hxv
    · exact hvx
    · have hle := h.text_le_of_around (mem_texts.2 ⟨hx, hxn⟩) (mem_numbers.2 ⟨hv, hvn⟩)
        (mem_numbers.2 ⟨hw, hwn⟩) hvw hwx hxv
      exact String.le_trans hle hwx
  case false.true.true =>
    rw [compare_ne_gt_iff (.inl hvn)] at hvw ⊢
    rcases String.le_total v.text x.text with hvx | hxv
    · exact hvx
    · have hle := h.text_le_of_around (mem_texts.2 ⟨hv, hvn⟩) (mem_numbers.2 ⟨hw, hwn⟩)
        (mem_numbers.2 ⟨hx, hxn⟩) hwx hxv hvw
      exact String.le_trans hvw hle
  case true.false.true =>
    rw [compare_ne_gt_iff (.inr hwn)] at hvw
    rw [compare_ne_gt_iff (.inl hwn)] at hwx
    rw [h.aroundText w (mem_texts.2 ⟨hw, hwn⟩) v (mem_numbers.2 ⟨hv, hvn⟩) x
      (mem_numbers.2 ⟨hx, hxn⟩) hvw hwx, compareTexts_ne_gt_iff]
    exact String.le_trans hvw hwx
  case true.false.false =>
    rw [compare_ne_gt_iff (.inr hwn)] at hvw
    rw [compare_ne_gt_iff (.inl hwn)] at hwx
    exact (compare_ne_gt_iff (.inr hxn)).2 (String.le_trans hvw hwx)
  case false.true.false =>
    rw [compare_ne_gt_iff (.inl hvn)] at hvw ⊢
    rw [compare_ne_gt_iff (.inr hxn)] at hwx
    exact String.le_trans hvw hwx
  case false.false.true | false.false.false =>
    rw [compare_ne_gt_iff (.inl hvn)] at hvw ⊢
    rw [compare_ne_gt_iff (.inl hwn)] at hwx
    exact String.le_trans hvw hwx

theorem orderedOn (h : RulesApart xs) : OrderedOn xs where
  swap v hv w hw := by
    refine ⟨v.compare w, ?_, ?_⟩
    · rw [compare?, incomparable, h.inRange v hv, h.inRange w hw]
      rfl
    · rw [compare?, incomparable, h.inRange v hv, h.inRange w hw, compare_swap]
      rfl
  trans v hv w hw x hx hvw hwx := by
    rw [atMost_iff (h.inRange v hv) (h.inRange w hw)] at hvw
    rw [atMost_iff (h.inRange w hw) (h.inRange x hx)] at hwx
    rw [atMost_iff (h.inRange v hv) (h.inRange x hx)]
    exact h.compare_trans hv hw hx hvw hwx

end RulesApart

namespace OrderedOn

theorem inRange (h : OrderedOn xs) (hv : v ∈ xs) : v.isOutOfRange = false := by
  obtain ⟨o, ho, -⟩ := h.swap v hv v hv
  by_contra hrange
  rw [compare?, incomparable, Bool.not_eq_false] at *
  simp [hrange] at ho

theorem compare_trans (h : OrderedOn xs) (hv : v ∈ xs) (hw : w ∈ xs) (hx : x ∈ xs)
    (hvw : v.compare w ≠ .gt) (hwx : w.compare x ≠ .gt) : v.compare x ≠ .gt := by
  rw [← atMost_iff (h.inRange hv) (h.inRange hw)] at hvw
  rw [← atMost_iff (h.inRange hw) (h.inRange hx)] at hwx
  rw [← atMost_iff (h.inRange hv) (h.inRange hx)]
  exact h.trans v hv w hw x hx hvw hwx

theorem rulesApart (h : OrderedOn xs) : RulesApart xs where
  inRange v hv := h.inRange hv
  besideNan n hn hnan x hx y hy := by
    obtain ⟨hn, -⟩ := mem_numbers.1 hn
    obtain ⟨hx, hxn⟩ := mem_numbers.1 hx
    obtain ⟨hy, hyn⟩ := mem_numbers.1 hy
    have hbefore {a : Value} (ha : a.isNumber) : n.compare a ≠ .gt := by
      rw [compare_of_nan hnan ha]
      exact Ordering.noConfusion
    have hafter {a : Value} (ha : a.isNumber) : a.compare n ≠ .gt := by
      rw [compare_swap, compare_of_nan hnan ha]
      exact Ordering.noConfusion
    exact compare_eq_eq_of_ne_gt (h.compare_trans hx hn hy (hafter hxn) (hbefore hyn))
      (h.compare_trans hy hn hx (hafter hyn) (hbefore hxn))
  aroundText t ht x hx y hy hxt hty := by
    obtain ⟨ht, htn⟩ := mem_texts.1 ht
    obtain ⟨hx, -⟩ := mem_numbers.1 hx
    obtain ⟨hy, -⟩ := mem_numbers.1 hy
    have hbefore {a : Value} : a.compare t ≠ .gt ↔ a.text ≤ t.text := compare_ne_gt_iff (.inr htn)
    have hafter {a : Value} : t.compare a ≠ .gt ↔ t.text ≤ a.text := compare_ne_gt_iff (.inl htn)
    have hxy := h.compare_trans hx ht hy (hbefore.2 hxt) (hafter.2 hty)
    have hyx : y.compare x ≠ .gt ↔ y.text ≤ x.text := by
      refine ⟨fun hyx => ?_, fun hyx => ?_⟩
      · have hyt := hbefore.1 (h.compare_trans hy hx ht hyx (hbefore.2 hxt))
        have htx := hafter.1 (h.compare_trans ht hy hx (hafter.2 hty) hyx)
        exact String.le_trans hyt htx
      · exact h.compare_trans hy ht hx (hbefore.2 (String.le_trans hyx hxt))
          (hafter.2 (String.le_trans hty hyx))
    rw [← compareTexts_ne_gt_iff, compare_swap, compareTexts_swap] at hyx
    have hxy' := compareTexts_ne_gt_iff.2 (String.le_trans hxt hty)
    revert hxy hxy' hyx
    cases x.compare y <;> cases compareTexts x y <;> simp

end OrderedOn

/-- The comparison is a total preorder on some values exactly if none of them is an integer out of
the range of numbers, beside a number that is none all numbers are equal, and any two numbers with a
text between theirs compare as their texts do. -/
theorem orderedOn_iff : OrderedOn xs ↔ RulesApart xs := ⟨(·.rulesApart), (·.orderedOn)⟩

/-- Two numbers around a text that is none, and two around one that is `nan`. -/
theorem not_orderedOn_mixed :
    ¬OrderedOn [.str "10", .str "1a", .str "9"] ∧ ¬OrderedOn [.int 2, .str "nan", .int 1] := by
  refine ⟨fun h => ?_, fun h => ?_⟩
  · refine h.compare_trans (v := .str "10") (w := .str "1a") (x := .str "9") (by simp) (by simp)
      (by simp) ?_ ?_ ?_ <;> decide +kernel
  · refine h.compare_trans (v := .int 2) (w := .str "nan") (x := .int 1) (by simp) (by simp)
      (by simp) ?_ ?_ ?_ <;> decide +kernel

end Value

end EntityQuery
