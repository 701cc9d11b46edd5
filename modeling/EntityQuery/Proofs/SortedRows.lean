import EntityQuery.Proofs.ColumnOrder

/-!
# Rows sorted by several sorters

One row comes after another by a list of sorters if the first of them that tells the two apart puts
it behind (`Sorter.ComesAfter`); a sorter by itself goes by the values under its name, of which the
missing ones come first, or last where the direction is turned (`Sorter.After`). Where the values
under the name of every sorter have an order, so have the rows (`Sorter.consistent_of_orderedOn`),
and sorting is stable (`sortRows_stable`).
-/

namespace EntityQuery

/-- The values that rows have under a name. -/
def columnValues (name : String) (rows : List Row) : List Value :=
  (rows.map fun row => (row.get? name).getD .null).filter (!·.isMissing)

/-- A value is there and comes after another, which is missing or less. -/
def Value.Above (v w : Value) : Prop :=
  v.isMissing = false ∧ (w.isMissing = true ∨ v.compare w = .gt)

namespace Sorter

variable {s : Sorter} {sorters : List Sorter} {rows : List Row} {a b c : Row}

/-- What a row has under the name of a sorter. -/
def valueIn (s : Sorter) (row : Row) : Value := (row.get? s.name).getD .null

/-- A sorter puts a row behind another. -/
def After (s : Sorter) (a b : Row) : Prop :=
  match s.direction with
  | .asc => (s.valueIn a).Above (s.valueIn b)
  | .desc => (s.valueIn b).Above (s.valueIn a)

/-- A sorter does not tell two rows apart. -/
def Alike (s : Sorter) (a b : Row) : Prop := ¬s.After a b ∧ ¬s.After b a

/-- The first sorter that tells two rows apart puts the one behind the other. -/
def ComesAfter (sorters : List Sorter) (a b : Row) : Prop :=
  ∃ before s rest, sorters = before ++ s :: rest ∧ (∀ t ∈ before, t.Alike a b) ∧ s.After a b

theorem compareValues_eq_gt_iff {v w : Value} : compareValues v w = .gt ↔ v.Above w := by
  unfold compareValues Value.Above
  cases v.isMissing <;> cases w.isMissing <;> simp

theorem compareValues_ne_gt_iff {v w : Value} : compareValues v w ≠ .gt ↔
    v.isMissing = true ∨ w.isMissing = false ∧ v.compare w ≠ .gt := by
  rw [ne_eq, compareValues_eq_gt_iff, Value.Above]
  cases v.isMissing <;> cases w.isMissing <;> simp

theorem compare_eq_gt_iff : s.compare a b = .gt ↔ s.After a b := by
  unfold compare After
  cases s.direction with
  | asc => exact compareValues_eq_gt_iff
  | desc =>
    dsimp only
    rw [← compareValues_swap]
    exact compareValues_eq_gt_iff

theorem compare_eq_eq_iff : s.compare a b = .eq ↔ s.Alike a b := by
  rw [Alike, ← compare_eq_gt_iff, ← compare_eq_gt_iff, compare_swap s a b]
  cases s.compare a b <;> decide

theorem compare_eq_compareValues : s.compare a b =
    match s.direction with
    | .asc => compareValues (s.valueIn a) (s.valueIn b)
    | .desc => compareValues (s.valueIn b) (s.valueIn a) := by
  unfold compare
  cases s.direction with
  | asc => rfl
  | desc => exact (compareValues_swap _ _).symm

theorem compareAll_cons : compareAll (s :: sorters) a b =
    (s.compare a b).then (compareAll sorters a b) := by
  rw [compareAll]
  cases s.compare a b <;> rfl

theorem compareAll_eq_eq_iff : compareAll sorters a b = .eq ↔ ∀ s ∈ sorters, s.Alike a b := by
  induction sorters with
  | nil => exact ⟨fun _ => List.forall_mem_nil _, fun _ => rfl⟩
  | cons s sorters ih =>
    rw [compareAll_cons, Ordering.then_eq_eq, compare_eq_eq_iff, ih, List.forall_mem_cons]

theorem compareAll_eq_gt_iff : compareAll sorters a b = .gt ↔ ComesAfter sorters a b := by
  induction sorters with
  | nil => exact ⟨(nomatch ·), fun ⟨before, s, rest, h, _⟩ => by simp at h⟩
  | cons s sorters ih =>
    rw [compareAll_cons, Ordering.then_eq_gt, compare_eq_gt_iff, compare_eq_eq_iff, ih]
    constructor
    · rintro (h | ⟨hs, before, t, rest, rfl, hbefore, ht⟩)
      · exact ⟨[], s, sorters, rfl, List.forall_mem_nil _, h⟩
      · exact ⟨s :: before, t, rest, rfl, List.forall_mem_cons.2 ⟨hs, hbefore⟩, ht⟩
    · rintro ⟨_ | ⟨s', before⟩, t, rest, h, hbefore, ht⟩
      · cases h
        exact .inl ht
      · cases h
        rw [List.forall_mem_cons] at hbefore
        exact .inr ⟨hbefore.1, before, t, rest, rfl, hbefore.2, ht⟩

theorem mem_columnValues (ha : a ∈ rows) (hpresent : (s.valueIn a).isMissing = false) :
    s.valueIn a ∈ columnValues s.name rows :=
  List.mem_filter.2 ⟨List.mem_map.2 ⟨a, ha, rfl⟩, by rw [hpresent]; rfl⟩

theorem compareValues_trans {xs : List Value} (h : Value.OrderedOn xs) {v w x : Value}
    (hv : v.isMissing = false → v ∈ xs) (hw : w.isMissing = false → w ∈ xs)
    (hx : x.isMissing = false → x ∈ xs) (hvw : compareValues v w ≠ .gt)
    (hwx : compareValues w x ≠ .gt) : compareValues v x ≠ .gt := by
  rw [compareValues_ne_gt_iff] at *
  cases hvm : v.isMissing with
  | true => exact .inl rfl
  | false =>
    obtain ⟨hwm, hvw⟩ := hvw.resolve_left (by simp [hvm])
    obtain ⟨hxm, hwx⟩ := hwx.resolve_left (by simp [hwm])
    exact .inr ⟨hxm, h.compare_trans (hv hvm) (hw hwm) (hx hxm) hvw hwx⟩

/-- The rows in the order of one sorter. -/
theorem transCmp_compare (h : Value.OrderedOn (columnValues s.name rows)) :
    Std.TransCmp fun a b : { row // row ∈ rows } => s.compare a b where
  eq_swap {a b} := compare_swap s b a
  isLE_trans {a b c} hab hbc := by
    rw [Ordering.isLE_iff_ne_gt, ← ne_eq, compare_eq_compareValues] at *
    cases hd : s.direction <;> rw [hd] at hab hbc
    · exact compareValues_trans h (mem_columnValues a.2) (mem_columnValues b.2)
        (mem_columnValues c.2) hab hbc
    · exact compareValues_trans h (mem_columnValues c.2) (mem_columnValues b.2)
        (mem_columnValues a.2) hbc hab

/-- The rows in the order of sorters in turn. -/
theorem transCmp_compareAll (h : ∀ s ∈ sorters, Value.OrderedOn (columnValues s.name rows)) :
    Std.TransCmp fun a b : { row // row ∈ rows } => compareAll sorters a b := by
  induction sorters with
  | nil => exact { eq_swap := rfl, isLE_trans := fun _ _ => rfl }
  | cons s sorters ih =>
    rw [List.forall_mem_cons] at h
    have := transCmp_compare h.1
    have := ih h.2
    have hlex : (fun a b : { row // row ∈ rows } => compareAll (s :: sorters) a b) =
        compareLex (fun a b : { row // row ∈ rows } => s.compare a b)
          fun a b => compareAll sorters a b :=
      funext₂ fun _ _ => compareAll_cons
    rw [hlex]
    infer_instance

theorem consistent_of_orderedOn (h : ∀ s ∈ sorters, Value.OrderedOn (columnValues s.name rows)) :
    Consistent sorters rows := fun a ha b hb c hc hab hbc => by
  rw [ne_eq, ← Ordering.isLE_iff_ne_gt] at *
  exact (transCmp_compareAll h).isLE_trans (a := ⟨a, ha⟩) (b := ⟨b, hb⟩) (c := ⟨c, hc⟩) hab hbc

theorem anyFails_of_orderedOn (h : ∀ s ∈ sorters, Value.OrderedOn (columnValues s.name rows))
    (ha : a ∈ rows) (hb : b ∈ rows) : anyFails sorters a b = false := by
  induction sorters with
  | nil => rfl
  | cons s sorters ih =>
    rw [List.forall_mem_cons] at h
    have hrange {row : Row} (hrow : row ∈ rows) (hm : (s.valueIn row).isMissing = false) :
        (s.valueIn row).isOutOfRange = false := h.1.inRange (mem_columnValues hrow hm)
    have hfails : s.fails a b = false := by
      change (!(s.valueIn a).isMissing && !(s.valueIn b).isMissing &&
        ((s.valueIn a).isOutOfRange || (s.valueIn b).isOutOfRange)) = false
      cases ham : (s.valueIn a).isMissing <;> cases hbm : (s.valueIn b).isMissing <;> try rfl
      rw [hrange ha ham, hrange hb hbm]
      rfl
    rw [anyFails, hfails, ih h.2]
    simp

end Sorter

variable {sorters : List Sorter} {rows : List Row}

/-- Where the values under the name of every sorter can be put in an order, sorting gives the same
rows, each behind none that comes after it by the sorters in turn, and rows that no sorter tells
apart keep their order. -/
theorem sortRows_stable (h : ∀ s ∈ sorters, Value.OrderedOn (columnValues s.name rows)) :
    ∃ sorted, sortRows sorters rows = .ok sorted ∧ sorted.Perm rows ∧
      sorted.Pairwise (fun a b => ¬Sorter.ComesAfter sorters a b) ∧
      ∀ ties : List Row, ties.Sublist rows →
        ties.Pairwise (fun a b => ∀ s ∈ sorters, s.Alike a b) → ties.Sublist sorted := by
  have hconsistent := Sorter.consistent_of_orderedOn h
  have hcomes {a b : Row} : (Sorter.compareAll sorters b a == .lt) = false ↔
      ¬Sorter.ComesAfter sorters a b := by
    rw [← Sorter.compareAll_eq_gt_iff, Sorter.compareAll_swap sorters a b]
    cases Sorter.compareAll sorters a b <;> decide
  refine ⟨_, sortRows_eq_ok_iff.2 ⟨?_, rfl⟩, perm_applySorters sorters rows, ?_, ?_⟩
  · exact List.Pairwise.imp_of_mem (fun ha hb _ => Sorter.anyFails_of_orderedOn h ha hb)
      (List.pairwise_of_forall fun _ _ => trivial)
  · exact (sorted_applySorters hconsistent).imp hcomes.1
  · intro ties hsub hties
    refine sublist_applySorters hconsistent hsub (hties.imp fun hab => hcomes.2 ?_)
    rw [← Sorter.compareAll_eq_gt_iff, Sorter.compareAll_eq_eq_iff.2 hab]
    exact Ordering.noConfusion

def delivery (id : Int) (quantity note : Value) : Row :=
  [("id", .int id), ("quantity", quantity), ("note", note)]

def deliveries : List Row := [
  delivery 1 (.str "10") (.str "urgent"), delivery 2 (.int 2) (.str ""),
  delivery 3 .null (.str "late"), delivery 4 (.int 10) .null,
  delivery 5 (.str "1e1") (.str "urgent"), delivery 6 (.str "n/a") (.str "2"),
  delivery 7 (.str "") (.str "n/a")]

def deliverySorters : List Sorter := [
  { target := .address "quantity", direction := .desc }, { target := .address "note" }]

theorem sortRows_stable_deliveries :
    (∀ s ∈ deliverySorters, Value.OrderedOn (columnValues s.name deliveries)) ∧
      ∃ sorted, sortRows deliverySorters deliveries = .ok sorted ∧
        sorted.map (·.get? "id") = [6, 4, 1, 5, 2, 3, 7].map (some <| .int ·) ∧
        sorted.Pairwise (fun a b => ¬Sorter.ComesAfter deliverySorters a b) ∧
        [delivery 1 (.str "10") (.str "urgent"), delivery 5 (.str "1e1") (.str "urgent")].Sublist
          sorted := by
  have h : ∀ s ∈ deliverySorters, Value.OrderedOn (columnValues s.name deliveries) := by
    have happart : ∀ s ∈ deliverySorters, Value.RulesApart (columnValues s.name deliveries) := by
      decide +kernel
    exact fun s hs => (happart s hs).orderedOn
  obtain ⟨sorted, hsorted, -, hbefore, hties⟩ := sortRows_stable h
  have hrun : (sortRows deliverySorters deliveries).map (·.map (·.get? "id")) =
      .ok ([6, 4, 1, 5, 2, 3, 7].map (some <| .int ·)) := by decide +kernel
  rw [hsorted] at hrun
  have halike : ∀ s ∈ deliverySorters, s.compare (delivery 1 (.str "10") (.str "urgent"))
      (delivery 5 (.str "1e1") (.str "urgent")) = .eq := by decide +kernel
  refine ⟨h, sorted, hsorted, Except.ok.inj hrun, hbefore, hties _ (by decide +kernel) ?_⟩
  exact List.pairwise_pair.2 fun s hs => Sorter.compare_eq_eq_iff.1 (halike s hs)

end EntityQuery
