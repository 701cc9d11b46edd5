import EntityQuery.Execution.Read
import EntityQuery.Proofs.FilterSplit
import EntityQuery.Proofs.RowOrder

/-!
# Queries on tables

What a query asks of a table of rows (`Query.evaluate`), and what a plan makes of the part of the
table that a service hands over: as many rows as the query asks for (`refine_handed`), in the same
order where the order of the sorters is one.
-/

namespace EntityQuery

/-- A query on a table: the rows that its filters accept, in the order of its sorters, cut to its
window. -/
def Query.evaluate (q : Query) (table : List Row) : Except Error ReadResult := do
  let sorted ← sortRows q.sorters (← applyFilters q.filters table)
  let window := applyWindow q.offset q.limit sorted
  pure { rows := window, total := some sorted.length,
         hasMore := q.offset + window.length < sorted.length }

theorem applyFilters_eq_ok_iff {g : Group} {rows kept : List Row} :
    applyFilters g rows = .ok kept ↔
      (∀ row ∈ rows, ∀ c ∈ g.leaves, c.fault? row = none) ∧
        kept = rows.filter fun row => g.holds row := by
  induction rows generalizing kept with
  | nil => simp [applyFilters, eq_comm]
  | cons row rows ih =>
    rw [applyFilters, Except.bind_eq_ok_iff, List.forall_mem_cons]
    constructor
    · rintro ⟨accepted, htest, h⟩
      obtain ⟨rest, hrest, h⟩ := Except.bind_eq_ok_iff.1 h
      obtain ⟨hleaves, rfl⟩ := (Group.test_eq_ok_iff row).1 htest
      obtain ⟨hrows, rfl⟩ := ih.1 hrest
      cases h
      refine ⟨⟨hleaves, hrows⟩, ?_⟩
      rw [List.filter_cons]
    · rintro ⟨⟨hleaves, hrows⟩, rfl⟩
      refine ⟨_, (Group.test_eq_ok_iff row).2 ⟨hleaves, rfl⟩, ?_⟩
      rw [ih.2 ⟨hrows, rfl⟩, List.filter_cons]
      rfl

/-- An empty group keeps every row. -/
theorem applyFilters_of_isEmpty {g : Group} (h : g.isEmpty = true) (rows : List Row) :
    applyFilters g rows = .ok rows := by
  rw [applyFilters_eq_ok_iff, Group.leaves_of_isEmpty g h]
  refine ⟨fun _ _ _ hc => absurd hc List.not_mem_nil, ?_⟩
  rw [List.filter_eq_self.2 fun row _ => Group.holds_of_isEmpty row h]

theorem sortRows_nil (rows : List Row) : sortRows [] rows = .ok rows :=
  sortRows_eq_ok_iff.2 ⟨List.pairwise_of_forall fun _ _ => rfl, rfl⟩

/-- What it takes for a query to be evaluated on a table, and what it gives. -/
theorem Query.evaluate_eq_ok_iff {q : Query} {table : List Row} {r : ReadResult} :
    q.evaluate table = .ok r ↔
      ∃ kept sorted, applyFilters q.filters table = .ok kept ∧
        sortRows q.sorters kept = .ok sorted ∧
        r = { rows := applyWindow q.offset q.limit sorted, total := some sorted.length,
              hasMore := q.offset + (applyWindow q.offset q.limit sorted).length <
                sorted.length } := by
  rw [Query.evaluate, Except.bind_eq_ok_iff]
  constructor
  · rintro ⟨kept, hkept, h⟩
    obtain ⟨sorted, hsorted, h⟩ := Except.bind_eq_ok_iff.1 h
    cases h
    exact ⟨kept, sorted, hkept, hsorted, rfl⟩
  · rintro ⟨kept, sorted, hkept, hsorted, rfl⟩
    exact ⟨kept, hkept, Except.bind_eq_ok_iff.2 ⟨sorted, hsorted, rfl⟩⟩

namespace Plan

/-- What a plan asks for is divided, never changed. -/
theorem of_eq_ok {d : Dialect} {q : Query} {p : Plan} (h : Plan.of d q = .ok p) :
    ∃ filters, q.filters.split d.filterStyle = .ok filters ∧
      p.remote = filters.remote ∧ p.localFilters = filters.locally ∧
      p.sorters = (d.sortStyle.split q.sorters).remote ∧
      p.localSorters = (d.sortStyle.split q.sorters).locally ∧
      ∃ attributes, p.query = { q with attributes := attributes } := by
  obtain ⟨filters, hsplit, h⟩ := Except.bind_eq_ok_iff.1 h
  cases h
  exact ⟨filters, Except.mapError_eq_ok_iff.1 hsplit, rfl, rfl, rfl, rfl, _, rfl⟩

/-- The rows of a table that meet the filters of a plan that are sent. -/
def met (p : Plan) (table : List Row) : List Row := table.filter fun row => p.remote.holds row

/-- The rows that a service hands over before it cuts a window. -/
def handed (p : Plan) (table : List Row) : List Row := applySorters p.sorters (p.met table)

variable {p : Plan} {table : List Row}

theorem mem_handed {row : Row} : row ∈ p.handed table ↔ row ∈ p.met table := mem_applySorters

/-- The sorters are sent, left for later, or both. -/
theorem sorters_cases {d : Dialect} {q : Query} (h : Plan.of d q = .ok p) :
    (p.sorters = q.sorters ∧ p.localSorters = []) ∨
      (p.sorters = q.sorters ∧ p.localSorters = q.sorters.map Sorter.markLocal) ∨
      (p.sorters = [] ∧ p.localSorters = q.sorters.map Sorter.markLocal) := by
  obtain ⟨-, -, -, -, hsent, hlater, -⟩ := of_eq_ok h
  rw [hsent, hlater]
  rcases SortStyle.split_cases d.sortStyle q.sorters with hs | hs | hs <;> rw [hs]
  · exact .inl ⟨rfl, rfl⟩
  · exact .inr (.inl ⟨rfl, rfl⟩)
  · exact .inr (.inr ⟨rfl, rfl⟩)

/-- What a query keeps of a table, a plan keeps of the rows that meet what it sends. -/
theorem applyFilters_met {d : Dialect} {q : Query} {kept rows : List Row}
    (h : Plan.of d q = .ok p) (hkept : applyFilters q.filters table = .ok kept)
    (hrows : ∀ row ∈ rows, row ∈ p.met table) :
    kept = (p.met table).filter (fun row => p.localFilters.holds row) ∧
      applyFilters p.localFilters rows =
        .ok (rows.filter fun row => p.localFilters.holds row) := by
  obtain ⟨filters, hsplit, hremote, hlocal, -⟩ := of_eq_ok h
  obtain ⟨hleaves, rfl⟩ := applyFilters_eq_ok_iff.1 hkept
  constructor
  · rw [met, List.filter_filter, hremote, hlocal]
    refine List.filter_congr fun row _ => ?_
    rw [Group.holds_split row hsplit, Bool.and_comm]
  · refine applyFilters_eq_ok_iff.2 ⟨fun row hrow => ?_, rfl⟩
    have hrow' : row ∈ table := (List.mem_filter.1 (hrows row hrow)).1
    rw [hlocal]
    exact ((forall_leaves_split (fun c => by rw [Condition.fault?_markLocal]) hsplit).1
      (hleaves row hrow')).2

/-- Whether all groups of rows are read and not the first one alone. -/
def keepsGroups (o : EntityOptions) : Prop :=
  o.responseGroupUseOnlyFirst = false ∨ nonEmpty? o.responseGroupByAttributeAlias = none

theorem refine_of_keepsGroups (h : keepsGroups p.options) (rows : List Row) :
    p.refine rows = applyFilters p.localFilters rows >>= sortRows p.localSorters := by
  unfold refine
  rcases h with h | h
  · cases nonEmpty? p.options.responseGroupByAttributeAlias with
    | none => rfl
    | some name =>
      rw [h]
      rfl
  · rw [h]

/-- A plan that keeps all groups keeps of the rows handed over what the query keeps of the table,
and leaves it in the same order unless sorting before filtering makes a difference. -/
theorem refine_handed {d : Dialect} {q : Query} {kept sorted : List Row}
    (h : Plan.of d q = .ok p) (hgroups : keepsGroups p.options)
    (hkept : applyFilters q.filters table = .ok kept)
    (hsorted : sortRows q.sorters kept = .ok sorted) :
    ∃ rows, p.refine (p.handed table) = .ok rows ∧ rows.Perm sorted ∧
      (p.sorters = [] ∨ Sorter.Consistent q.sorters (p.met table) → rows = sorted) := by
  obtain ⟨rfl, hfilter⟩ := applyFilters_met h hkept fun row => mem_handed.1
  obtain ⟨-, rfl⟩ := sortRows_eq_ok_iff.1 hsorted
  set l := fun row => p.localFilters.holds row
  have hperm : ((p.met table).filter l).Perm ((p.handed table).filter l) :=
    ((perm_applySorters p.sorters (p.met table)).filter l).symm
  have hrefine : p.refine (p.handed table) =
      sortRows p.localSorters ((p.handed table).filter l) := by
    rw [refine_of_keepsGroups hgroups, hfilter]
    rfl
  have hmono : Sorter.Consistent q.sorters (p.met table) →
      Sorter.Consistent q.sorters ((p.met table).filter l) :=
    fun hc => hc.mono fun row hrow => (List.mem_filter.1 hrow).1
  rw [hrefine]
  rcases sorters_cases h with ⟨hs, hl⟩ | ⟨hs, hl⟩ | ⟨hs, hl⟩ <;>
    simp only [handed, hs, hl] at hperm ⊢
  · refine ⟨_, sortRows_nil _, hperm.symm.trans (perm_applySorters _ _).symm, ?_⟩
    rintro (hq | hc)
    · rw [hq]
      rfl
    · exact filter_applySorters l hc
  · rw [sortRows_markLocal]
    refine ⟨_, sortRows_of_perm hperm hsorted, ?_, ?_⟩
    · exact ((perm_applySorters _ _).trans hperm.symm).trans (perm_applySorters _ _).symm
    · rintro (hq | hc)
      · rw [hq]
        rfl
      · rw [filter_applySorters l hc, applySorters_idem (hmono hc)]
  · rw [sortRows_markLocal]
    exact ⟨_, hsorted, .refl _, fun _ => rfl⟩

/-- Where nothing is left to be done after reading, the rows handed over are those that the query
asks for. -/
theorem handed_eq {d : Dialect} {q : Query} {kept sorted : List Row} (h : Plan.of d q = .ok p)
    (hfilters : p.localFilters.isEmpty = true) (hsorters : p.localSorters = [])
    (hkept : applyFilters q.filters table = .ok kept)
    (hsorted : sortRows q.sorters kept = .ok sorted) : p.handed table = sorted := by
  obtain ⟨rfl, -⟩ := applyFilters_met h hkept fun row => mem_handed.1
  obtain ⟨-, rfl⟩ := sortRows_eq_ok_iff.1 hsorted
  have hall : (p.met table).filter (fun row => p.localFilters.holds row) = p.met table :=
    List.filter_eq_self.2 fun row _ => Group.holds_of_isEmpty row hfilters
  have hsent : p.sorters = q.sorters := by
    rcases sorters_cases h with ⟨hs, -⟩ | ⟨hs, -⟩ | ⟨hs, hl⟩
    · exact hs
    · exact hs
    · rw [hsorters] at hl
      rw [hs, List.map_eq_nil_iff.1 hl.symm]
  rw [hall, handed, hsent]

/-- Where nothing is left to be done after reading, rows stay as they are. -/
theorem refine_of_isEmpty (hgroups : keepsGroups p.options)
    (hfilters : p.localFilters.isEmpty = true) (hsorters : p.localSorters = [])
    (rows : List Row) : p.refine rows = .ok rows := by
  rw [refine_of_keepsGroups hgroups, applyFilters_of_isEmpty hfilters, hsorters]
  exact sortRows_nil rows

end Plan

end EntityQuery
