import EntityQuery.Proofs.StableSort
import EntityQuery.Remote.Parameters

/-!
# The order of rows

Sorters compare two rows alike from both sides (`compareAll_swap`), so all that a list of sorters
may lack for an order is transitivity, which fails where texts and numerals share a column.
Where it does not fail (`Sorter.Consistent`), local sorting commutes with leaving rows out
(`filter_applySorters`) and a second sort changes nothing (`applySorters_idem`).
-/

namespace EntityQuery

open Number

theorem Number.Binary64.lt_asymm {x y : Binary64} (h : x.lt y = true) : y.lt x = false := by
  cases x with
  | nan => simp [Binary64.lt] at h
  | infinite a =>
    cases y with
    | nan => rfl
    | infinite b => cases a <;> cases b <;> simp_all [Binary64.lt]
    | finite b n f hn => simpa [Binary64.lt] using h
  | finite a m e hm =>
    cases y with
    | nan => rfl
    | infinite b => simpa [Binary64.lt] using h
    | finite b n f hn =>
      simp only [Binary64.lt, decide_eq_true_eq, decide_eq_false_iff_not] at h ⊢
      omega

/-- How the texts of two values compare. -/
def Value.compareTexts (a b : Value) : Ordering :=
  if b.text < a.text then .gt else if a.text < b.text then .lt else .eq

theorem Value.compareTexts_swap (a b : Value) :
    b.compareTexts a = (a.compareTexts b).swap := by
  unfold compareTexts
  by_cases hab : a.text < b.text
  · rw [if_pos hab, if_neg (String.lt_asymm hab), if_pos hab, Ordering.swap]
  · by_cases hba : b.text < a.text
    · rw [if_neg hab, if_pos hba, if_pos hba, Ordering.swap]
    · rw [if_neg hab, if_neg hba, if_neg hba, if_neg hab, Ordering.swap]

theorem Value.compare_swap (a b : Value) : b.compare a = (a.compare b).swap := by
  have htexts := compareTexts_swap a b
  unfold Value.compare
  cases a.number? with
  | none => cases b.number? <;> exact htexts
  | some x =>
    cases b.number? with
    | none => exact htexts
    | some y =>
      by_cases hxy : x.lt y = true
      · simp [hxy, Binary64.lt_asymm hxy]
      · by_cases hyx : y.lt x = true
        · simp [hxy, hyx]
        · simp [hxy, hyx]

namespace Sorter

theorem compareValues_swap (a b : Value) :
    compareValues b a = (compareValues a b).swap := by
  unfold compareValues
  cases a.isMissing <;> cases b.isMissing <;> first | rfl | exact Value.compare_swap a b

theorem compare_swap (s : Sorter) (a b : Row) : s.compare b a = (s.compare a b).swap := by
  unfold compare
  rw [compareValues_swap]
  cases s.direction with
  | asc => rfl
  | desc => rfl

theorem compareAll_swap (sorters : List Sorter) (a b : Row) :
    compareAll sorters b a = (compareAll sorters a b).swap := by
  induction sorters with
  | nil => rfl
  | cons s rest ih =>
    rw [compareAll, compareAll, compare_swap]
    cases s.compare a b with
    | eq => exact ih
    | lt => rfl
    | gt => rfl

theorem fails_symm (s : Sorter) (a b : Row) : s.fails b a = s.fails a b := by
  simp only [fails, Value.incomparable]
  ac_rfl

theorem anyFails_symm (sorters : List Sorter) (a b : Row) :
    anyFails sorters b a = anyFails sorters a b := by
  induction sorters with
  | nil => rfl
  | cons s rest ih =>
    rw [anyFails, anyFails, ih, fails_symm, compare_swap]
    cases s.compare a b <;> rfl

/-- The sorter marked for sorting after reading. -/
def markLocal (s : Sorter) : Sorter := { s with applyLocally := true }

theorem compareAll_markLocal (sorters : List Sorter) (a b : Row) :
    compareAll (sorters.map markLocal) a b = compareAll sorters a b := by
  induction sorters with
  | nil => rfl
  | cons s rest ih =>
    rw [List.map_cons, compareAll, compareAll, ih]
    rfl

theorem anyFails_markLocal (sorters : List Sorter) (a b : Row) :
    anyFails (sorters.map markLocal) a b = anyFails sorters a b := by
  induction sorters with
  | nil => rfl
  | cons s rest ih =>
    rw [List.map_cons, anyFails, anyFails, ih]
    rfl

/-- A row that does not come after one that does not come after a third does not come after the
third. -/
def Consistent (sorters : List Sorter) (rows : List Row) : Prop :=
  ∀ a ∈ rows, ∀ b ∈ rows, ∀ c ∈ rows, compareAll sorters a b ≠ .gt →
    compareAll sorters b c ≠ .gt → compareAll sorters a c ≠ .gt

theorem Consistent.mono {sorters : List Sorter} {rows rows' : List Row}
    (h : Consistent sorters rows') (hsub : ∀ a ∈ rows, a ∈ rows') : Consistent sorters rows :=
  fun a ha b hb c hc => h a (hsub a ha) b (hsub b hb) c (hsub c hc)

theorem Consistent.weakOrderOn {sorters : List Sorter} {rows : List Row}
    (h : Consistent sorters rows) :
    WeakOrderOn (fun a b => compareAll sorters a b == .lt) rows := by
  have hswap : ∀ a b : Row, (compareAll sorters a b == .lt) = false ↔
      compareAll sorters b a ≠ .gt := by
    intro a b
    rw [compareAll_swap sorters a b]
    cases compareAll sorters a b <;> decide
  refine ⟨fun a ha b hb hab => ?_, fun a ha b hb c hc hab hbc => ?_⟩
  · rw [hswap]
    rw [beq_iff_eq] at hab
    rw [hab]
    exact Ordering.noConfusion
  · rw [hswap] at hab hbc ⊢
    exact h c hc b hb a ha hbc hab

end Sorter

section

variable {sorters : List Sorter} {rows : List Row}

theorem applySorters_markLocal :
    applySorters (sorters.map Sorter.markLocal) rows = applySorters sorters rows := by
  simp only [applySorters, List.isEmpty_map, Sorter.compareAll_markLocal]

theorem mem_applySorters {row : Row} : row ∈ applySorters sorters rows ↔ row ∈ rows :=
  (perm_applySorters sorters rows).mem_iff

theorem filter_applySorters (p : Row → Bool) (h : Sorter.Consistent sorters rows) :
    (applySorters sorters rows).filter p = applySorters sorters (rows.filter p) := by
  unfold applySorters
  by_cases hs : sorters.isEmpty = true
  · rw [if_pos hs, if_pos hs]
  · rw [if_neg hs, if_neg hs]
    exact filter_sortBy p h.weakOrderOn

theorem applySorters_idem (h : Sorter.Consistent sorters rows) :
    applySorters sorters (applySorters sorters rows) = applySorters sorters rows := by
  unfold applySorters
  by_cases hs : sorters.isEmpty = true
  · rw [if_pos hs, if_pos hs]
  · rw [if_neg hs, if_neg hs]
    have hmem : ∀ row ∈ sortBy (fun a b => Sorter.compareAll sorters a b == .lt) rows,
        row ∈ rows := fun row => (perm_sortBy _ rows).mem_iff.1
    exact sortBy_of_sorted (h.mono hmem).weakOrderOn (sorted_sortBy h.weakOrderOn)

theorem sorted_applySorters (h : Sorter.Consistent sorters rows) :
    Sorted (fun a b => Sorter.compareAll sorters a b == .lt) (applySorters sorters rows) := by
  unfold applySorters
  split_ifs with hs
  · rw [List.isEmpty_iff.1 hs]
    exact List.pairwise_of_forall fun _ _ => rfl
  · exact sorted_sortBy h.weakOrderOn

/-- Rows that are in order keep it. -/
theorem sublist_applySorters {part : List Row} (h : Sorter.Consistent sorters rows)
    (hsub : part.Sublist rows)
    (hs : Sorted (fun a b => Sorter.compareAll sorters a b == .lt) part) :
    part.Sublist (applySorters sorters rows) := by
  unfold applySorters
  split_ifs
  · exact hsub
  · exact sublist_sortBy h.weakOrderOn hsub hs

theorem sortRows_eq_ok_iff {sorted : List Row} :
    sortRows sorters rows = .ok sorted ↔
      rows.Pairwise (fun a b => Sorter.anyFails sorters a b = false) ∧
        sorted = applySorters sorters rows := by
  unfold sortRows
  split_ifs with h
  · exact ⟨fun hs => ⟨h, (Except.ok.inj hs).symm⟩, fun ⟨_, hs⟩ => by rw [hs]⟩
  · refine ⟨fun hs => ?_, fun ⟨hp, _⟩ => absurd hp h⟩
    cases hs

/-- Whether rows can be sorted does not depend on their order. -/
theorem sortRows_of_perm {rows' sorted : List Row} (hp : rows.Perm rows')
    (h : sortRows sorters rows = .ok sorted) :
    sortRows sorters rows' = .ok (applySorters sorters rows') := by
  obtain ⟨hpair, -⟩ := sortRows_eq_ok_iff.1 h
  refine sortRows_eq_ok_iff.2 ⟨hp.pairwise hpair fun hab => ?_, rfl⟩
  rwa [Sorter.anyFails_symm]

theorem sortRows_markLocal :
    sortRows (sorters.map Sorter.markLocal) rows = sortRows sorters rows := by
  simp only [sortRows, applySorters_markLocal, Sorter.anyFails_markLocal]

end

/-- The sorters of a query are all sent, all left for later, or both. -/
theorem SortStyle.split_cases (style : SortStyle) (sorters : List Sorter) :
    style.split sorters = ⟨sorters, []⟩ ∨
      style.split sorters = ⟨sorters, sorters.map Sorter.markLocal⟩ ∨
      style.split sorters = ⟨[], sorters.map Sorter.markLocal⟩ := by
  unfold SortStyle.split
  split_ifs
  · exact .inr (.inl rfl)
  · exact .inl rfl
  · exact .inr (.inr rfl)

end EntityQuery
