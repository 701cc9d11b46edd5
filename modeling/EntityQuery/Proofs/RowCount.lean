import EntityQuery.Proofs.Numeral
import EntityQuery.Proofs.PageCount

/-!
# The number of rows

The number of rows that a query keeps of a table comes from a further request, from a counter beside
the rows, or from the rows themselves, whichever the dialect and the service have. What the service
tells is the number of the rows that it was asked for, and where the query keeps fewer of them, they
are counted after reading. So the number is right however it is found, and it is missed only where
the query cannot be sent or what it keeps cannot be sorted (`count_of_countedTable`).
-/

namespace EntityQuery

open Number

/-- Sorting fails or not whatever the order that the rows come in, and leaves as many as there
are. -/
theorem map_length_sortRows {sorters : List Sorter} {rows rows' : List Row}
    (hperm : rows.Perm rows') : (sortRows sorters rows).map List.length =
      (sortRows sorters rows').map fun _ => rows'.length := by
  cases hsort : sortRows sorters rows with
  | ok sorted =>
    obtain ⟨-, rfl⟩ := sortRows_eq_ok_iff.1 hsort
    rw [sortRows_of_perm hperm hsort]
    exact congrArg Except.ok ((perm_applySorters _ _).trans hperm).length_eq
  | error e =>
    cases hsort' : sortRows sorters rows' with
    | ok sorted =>
      rw [sortRows_of_perm hperm.symm hsort'] at hsort
      cases hsort
    | error e' =>
      unfold sortRows at hsort hsort'
      split_ifs at hsort hsort'
      cases hsort
      cases hsort'
      rfl

namespace Plan

variable {σ : Type} {d : Dialect} {p : Plan} {t : Transport σ} {e : Error}

theorem run_of_unsent (hitem : p.itemCondition? = .ok none) {remotely : Bool}
    (hremotely : p.pagesRemotely d = .ok remotely) (hunsent : p.readRequest? d = .error e)
    (s : σ) : p.run d t s = (.error e, s) := by
  have hfetch : p.fetch? d t false s = (.error e, s) := by
    refine Exchange.bind_of_error _ ?_
    rw [Exchange.lift_apply, hunsent]
  exact run_of_unfetched hitem hremotely hfetch

end Plan

/-- A table whose rows that meet what is sent are handed over, in any order, by a service that tells
their number beside them or not at all. Asked for the number it gives its numeral or refuses. -/
structure CountedTable {σ : Type} (d : Dialect) (q : Query) (p : Plan) (t : Transport σ)
    (table kept : List Row) : Prop where
  plain : q.ReadsPlainly
  divided : Plan.of d { q with offset := 0, limit := 0 } = .ok p
  keeps : applyFilters q.filters table = .ok kept
  written : (Nat.toDigits 10 (p.met table).length).length ≤ maxDigits
  served : ∀ request, p.readRequest? d = .ok (some request) → ∀ s, ∃ answer body rows s',
    t.send request s = (.ok answer, s') ∧ Body.ofResponse d answer = .ok body ∧
    body.rows d p.query false = .ok rows ∧ rows.Perm (p.met table) ∧
    (body.count d p.entity = .ok none ∨
      body.count d p.entity = .ok (some ((p.met table).length : Int)))
  asked : ∀ request, p.readRequest? d = .ok (some request) → ∀ asked,
    p.countRequest? d request = some asked → ∀ s,
      (∃ fault s', t.send asked s = (.error (.service fault), s')) ∨
      ∃ answer s', t.send asked s = (.ok answer, s') ∧
        answer.text = natText (p.met table).length

namespace CountedTable

variable {σ : Type} {d : Dialect} {q : Query} {p : Plan} {t : Transport σ}
  {table kept : List Row} {request : Request}

theorem readsPlainly (h : CountedTable d q p t table kept) :
    Query.ReadsPlainly { q with offset := 0, limit := 0 } where
  noItemAddress := h.plain.noItemAddress
  noOwnAddress := h.plain.noOwnAddress
  noPlaceholders := h.plain.noPlaceholders
  unforced := h.plain.unforced
  keepsGroups := h.plain.keepsGroups

theorem keepsGroups (h : CountedTable d q p t table kept) : Plan.keepsGroups p.options := by
  rw [Plan.options_eq h.divided]
  exact h.plain.keepsGroups

theorem itemCondition?_eq (h : CountedTable d q p t table kept) : p.itemCondition? = .ok none :=
  Plan.itemCondition?_eq_none h.divided h.readsPlainly

theorem unwindowed (h : CountedTable d q p t table kept) :
    p.query.offset = 0 ∧ p.query.limit = 0 := Plan.query_window_eq h.divided

/-- What the service tells when it is asked for the number is nothing or the number. -/
theorem exists_askCount (h : CountedTable d q p t table kept)
    (hr : p.readRequest? d = .ok (some request)) (s : σ) :
    ∃ told s', p.askCount d t request s = (.ok told, s') ∧
      ∀ n ∈ told, n = (p.met table).length := by
  have htells : ∃ told, p.TellsCount d t request s told ∧
      ∀ n ∈ told, n = (p.met table).length := by
    unfold Plan.TellsCount
    cases hasked : p.countRequest? d request with
    | none => exact ⟨none, rfl, nofun⟩
    | some asked =>
      rcases h.asked request hr asked hasked s with ⟨fault, s', hsend⟩ | ⟨answer, s', hsend, htext⟩
      · exact ⟨none, ⟨s', .inl ⟨rfl, fault, hsend⟩⟩, nofun⟩
      · have hparse : parseCount (.str answer.text) = .ok (some ((p.met table).length : Int)) := by
          rw [htext]
          exact parseCount_natText h.written
        exact ⟨some _, ⟨s', .inr ⟨answer, hsend, hparse⟩⟩, by simp⟩
  obtain ⟨told, htold, hright⟩ := htells
  obtain ⟨s', hask⟩ := Plan.askCount_of_tellsCount htold
  exact ⟨told, s', hask, hright⟩

theorem map_length_refine (h : CountedTable d q p t table kept) {rows : List Row}
    (hrows : rows.Perm (p.met table)) : (p.refine rows).map List.length =
      (sortRows p.localSorters kept).map fun _ => kept.length := by
  obtain ⟨hkept, hfilter⟩ := Plan.applyFilters_met h.divided h.keeps
    fun row hrow => hrows.mem_iff.1 hrow
  have hperm : (rows.filter fun row => p.localFilters.holds row).Perm kept := by
    rw [hkept]
    exact hrows.filter _
  rw [Plan.refine_of_keepsGroups h.keepsGroups, hfilter]
  exact map_length_sortRows hperm

/-- Where the service could cut a window, the query keeps all that it hands over. -/
theorem length_met (h : CountedTable d q p t table kept)
    (hremotely : p.pagesRemotely d = .ok true) : (p.met table).length = kept.length := by
  obtain ⟨-, hfilters, -⟩ := Plan.pagesRemotely_eq_true hremotely
  obtain ⟨hkept, -⟩ := Plan.applyFilters_met h.divided h.keeps fun _ => id
  rw [hkept, List.filter_eq_self.2 fun row _ => Group.holds_of_isEmpty row hfilters]

theorem exists_fetched (h : CountedTable d q p t table kept)
    (hr : p.readRequest? d = .ok (some request)) (s : σ) : ∃ rows count s',
      Plan.fetchAll d t false [p] s = (.ok [⟨request, rows, count⟩], s') ∧
        rows.Perm (p.met table) ∧ ∀ n ∈ count, n = ((p.met table).length : Int) := by
  obtain ⟨answer, body, rows, s', hsend, hbody, hrows, hperm, hcount⟩ := h.served request hr s
  rcases hcount with hcount | hcount
  · exact ⟨rows, none, s', Plan.fetchAll_of_answer hr hsend hbody hrows hcount, hperm, nofun⟩
  · exact ⟨rows, some _, s', Plan.fetchAll_of_answer hr hsend hbody hrows hcount, hperm, by simp⟩

/-- The total of all rows is that of the counter, or that of the rows without one. -/
theorem exists_run_remote (h : CountedTable d q p t table kept)
    (hr : p.readRequest? d = .ok (some request)) (hremotely : p.pagesRemotely d = .ok true)
    (s : σ) : ∃ result s', p.run d t s = (.ok result, s') ∧
      result.total = some (kept.length : Int) := by
  obtain ⟨ho, hl⟩ := h.unwindowed
  obtain ⟨rows, count, s₁, hfetch, hperm, hright⟩ := h.exists_fetched hr s
  have hextra : d.readsExtraRow p.options p.query.limit = false := by
    rw [hl]
    simp [Dialect.readsExtraRow]
  obtain ⟨told, s₂, hask, -⟩ := h.exists_askCount hr s₁
  obtain ⟨s₃, hwindow⟩ := Plan.remoteWindow_of_told ⟨request, rows, count⟩ rows hextra hask
  refine ⟨_, s₃, Plan.run_of_window hremotely hfetch hwindow, ?_⟩
  have htold : p.query.toldCount count told = count := by simp [Query.toldCount, ho, hl]
  have hall : rows.length = kept.length := hperm.length_eq.trans (h.length_met hremotely)
  rw [Plan.total_closeWindow]
  simp only [Plan.grouped_of_keepsGroups h.keepsGroups, htold, ho, hl]
  cases hcounter : count with
  | none => simp [hall]
  | some n =>
    have hn := hright n hcounter
    rw [h.length_met hremotely] at hn
    simp [hn, hall]

/-- Rows that are counted after reading are as many as the query keeps, if they can be sorted. -/
theorem exists_run_local (h : CountedTable d q p t table kept)
    (hr : p.readRequest? d = .ok (some request)) (hremotely : p.pagesRemotely d = .ok false)
    (s : σ) : ∃ outcome s', p.run d t s = (outcome, s') ∧ outcome.map (·.total) =
      (sortRows p.localSorters kept).map fun _ => some (kept.length : Int) := by
  obtain ⟨rows, count, s', hfetch, hperm, -⟩ := h.exists_fetched hr s
  have hlength := h.map_length_refine hperm
  refine ⟨(p.refine rows).map p.localWindow, s', ?_, ?_⟩
  · rw [Plan.run_of_fetched h.itemCondition?_eq hremotely hfetch, if_neg Bool.false_ne_true]
    cases p.refine rows <;> rfl
  · cases hrefine : p.refine rows <;> cases hsort : sortRows p.localSorters kept <;>
      rw [hrefine, hsort] at hlength <;> simp_all [Except.map, Plan.localWindow]

end CountedTable

/-- The number of rows is the total of all of them where the service does not tell it. -/
theorem Query.count_of_local {σ : Type} {d : Dialect} {q : Query} {p : Plan} {t : Transport σ}
    (hp : Plan.of d { q with offset := 0, limit := 0 } = .ok p)
    (hremotely : p.pagesRemotely d = .ok false) (s : σ) :
    q.count d t s = ((p.run d t s).1.map (·.total), (p.run d t s).2) := by
  unfold Query.count Query.read
  rw [Exchange.lift_bind_of_ok _ hp, Exchange.lift_bind_of_ok _ hremotely,
    if_neg Bool.false_ne_true, Exchange.bind_pure_apply, Exchange.lift_bind_of_ok _ hp]

/-- The number of rows is what the service tells, or else the total of all of them. -/
theorem Query.count_of_remote {σ : Type} {d : Dialect} {q : Query} {p : Plan} {t : Transport σ}
    {request : Request} {told : Option Int} {s s' : σ}
    (hp : Plan.of d { q with offset := 0, limit := 0 } = .ok p)
    (hremotely : p.pagesRemotely d = .ok true) (hr : p.readRequest? d = .ok (some request))
    (hask : p.askCount d t request s = (.ok told, s')) : q.count d t s =
      told.elim ((p.run d t s').1.map (·.total), (p.run d t s').2) fun n => (.ok (some n), s') := by
  unfold Query.count Query.read
  rw [Exchange.lift_bind_of_ok _ hp, Exchange.lift_bind_of_ok _ hremotely, if_pos rfl,
    Exchange.lift_bind_of_ok _ hr]
  dsimp only
  rw [Exchange.bind_of_ok _ hask]
  cases told with
  | some n => rfl
  | none =>
    dsimp only
    rw [Exchange.bind_pure_apply, Exchange.lift_bind_of_ok _ hp]
    rfl

/-- What cannot be sent is not counted. -/
theorem CountedTable.count_of_unsent {σ : Type} {d : Dialect} {q : Query} {p : Plan}
    {t : Transport σ} {table kept : List Row} (h : CountedTable d q p t table kept) {e : Error}
    (hunsent : p.readRequest? d = .error e) {remotely : Bool}
    (hremotely : p.pagesRemotely d = .ok remotely) (s : σ) : q.count d t s = (.error e, s) := by
  cases remotely with
  | true =>
    unfold Query.count
    rw [Exchange.lift_bind_of_ok _ h.divided, Exchange.lift_bind_of_ok _ hremotely, if_pos rfl,
      hunsent]
    rfl
  | false =>
    rw [Query.count_of_local h.divided hremotely,
      Plan.run_of_unsent h.itemCondition?_eq hremotely hunsent]
    rfl

/-- The number of rows of a query is that of the rows of the table that it keeps, whatever its
window. It is missed only where the query cannot be sent, or its rows cannot be sorted where they
are sorted after reading. -/
theorem count_of_countedTable {σ : Type} {d : Dialect} {q : Query} {p : Plan} {t : Transport σ}
    {table kept : List Row} (h : CountedTable d q p t table kept) (s : σ) :
    ∃ s', q.count d t s = ((do
      let _ ← p.readRequest? d
      let _ ← sortRows p.localSorters kept
      pure (some (kept.length : Int))), s') := by
  have hpages := Plan.pagesRemotely_of_plain h.divided h.readsPlainly
  generalize (d.pagesRemotely p.options &&
    (p.localFilters.isEmpty && p.localSorters.isEmpty)) = remotely at hpages
  cases hr : p.readRequest? d with
  | error e => exact ⟨s, h.count_of_unsent hr hpages s⟩
  | ok r =>
    obtain ⟨request, rfl⟩ := Plan.exists_request h.divided h.readsPlainly hr
    cases remotely with
    | true =>
      obtain ⟨-, -, hsorters, -⟩ := Plan.pagesRemotely_eq_true hpages
      obtain ⟨told, s₁, hask, hright⟩ := h.exists_askCount hr s
      rw [Query.count_of_remote h.divided hpages hr hask, hsorters, sortRows_nil]
      cases told with
      | some n =>
        have hn := hright n rfl
        rw [h.length_met hpages] at hn
        exact ⟨s₁, by rw [hn]; rfl⟩
      | none =>
        obtain ⟨result, s', hrun, htotal⟩ := h.exists_run_remote hr hpages s₁
        refine ⟨s', ?_⟩
        rw [Option.elim_none, hrun]
        exact congrArg (·, s') (congrArg Except.ok htotal)
    | false =>
      obtain ⟨outcome, s', hrun, htotal⟩ := h.exists_run_local hr hpages s
      refine ⟨s', ?_⟩
      rw [Query.count_of_local h.divided hpages, hrun]
      refine congrArg (·, s') (htotal.trans ?_)
      cases sortRows p.localSorters kept <;> rfl

def stockPage : Query := { stock with offset := 1, limit := 1 }

theorem count_stockPage :
    CountedTable .odata2 stockPage stockPlan (shelf orderedStock) orderedStock
      [stockRow "ale" 1, stockRow "corn" 1] ∧
    ∃ s', stockPage.count .odata2 (shelf orderedStock) () = (.ok (some 2), s') := by
  have h : CountedTable .odata2 stockPage stockPlan (shelf orderedStock) orderedStock
      [stockRow "ale" 1, stockRow "corn" 1] := {
    plain := ⟨rfl, by decide, rfl, rfl, .inl rfl⟩
    divided := rfl
    keeps := by decide +kernel
    written := by decide +kernel
    served := by
      intro request hr s
      cases stockPlan_readRequest?.symm.trans hr
      exact ⟨_, .data (shelfBody orderedStock), orderedStock, (), rfl, by decide +kernel,
        by decide +kernel, by decide +kernel, .inl (by decide +kernel)⟩
    asked := by
      intro request hr asked hasked s
      cases stockPlan_readRequest?.symm.trans hr
      cases hasked
      exact .inr ⟨_, (), rfl, by decide +kernel⟩ }
  obtain ⟨s', hcount⟩ := count_of_countedTable h ()
  rw [stockPlan_readRequest?, show stockPlan.localSorters = [] from rfl, sortRows_nil] at hcount
  exact ⟨h, s', hcount⟩

def numericId : Attribute :=
  { name := "id", dataAddress := "id", options := { odataType := some "Edm.Int32" } }

def numberedItems (conditions : List Condition) (sorters : List Sorter) : Query where
  entity := { name := "items", dataAddress := "items", attributes := [numericId] }
  filters := .mk .and (conditions.map .condition) []
  sorters := sorters

def textItems : Query := numberedItems [{ target := .attribute numericId, value := .str "abc" }] []

def textPlan : Plan := { query := textItems, remote := textItems.filters }

def orderedItems : Query := numberedItems [] [{ target := .attribute numericId }]

def orderedPlan : Plan :=
  { query := orderedItems, localSorters := orderedItems.sorters.map Sorter.markLocal }

/-- The numbers of two items. No number is compared with the first, which is beyond all floats. -/
def hugeIds : List Int := [ofDigits (1 :: List.replicate 400 0), 1]

def hugeText : List Char :=
  "[\x7b\"id\":1".toList ++ List.replicate 400 '0' ++ "\x7d,\x7b\"id\":1\x7d]".toList

def hugeService : Transport Unit where
  baseUrl := ""
  send _ := pure { text := String.ofList hugeText }
  freshName := pure ""

theorem body_hugeText :
    Body.ofResponse .json { text := String.ofList hugeText } = .ok (.data (pageOf hugeIds)) := by
  have hread : Json.read? (String.ofList hugeText) = some (pageOf hugeIds) := by
    rw [Json.read?, String.toList_ofList]
    decide +kernel
  have hne : String.ofList hugeText ≠ "" := by
    rw [ne_eq, String.ofList_eq_empty_iff]
    decide
  have hjson : Response.json { text := String.ofList hugeText } = .ok (pageOf hugeIds) := by
    rw [Response.json, if_neg hne, decodeJson, hread]
  exact Except.bind_of_ok _ hjson

theorem countedTable_hugeItems : CountedTable .json orderedItems orderedPlan hugeService
    (itemRows hugeIds) (itemRows hugeIds) where
  plain := ⟨rfl, by decide, rfl, rfl, .inl rfl⟩
  divided := rfl
  keeps := by decide +kernel
  written := by decide +kernel
  served := fun request _ s => ⟨_, .data (pageOf hugeIds), itemRows hugeIds, (), rfl,
    body_hugeText, by decide +kernel, by decide +kernel, .inl (by decide +kernel)⟩
  asked := fun _ _ _ hasked => nomatch hasked

/-- A value without a literal keeps a query from being sent, and rows that are in no order are not
counted where they are sorted after reading. -/
theorem countedTable_count_eq_error :
    CountedTable .odata4 textItems textPlan (itemService (pageOf [])) (itemRows [1]) [] ∧
    (textItems.count .odata4 (itemService (pageOf [])) ()).1 =
      .error (.codec (.cast "'abc'" "Int32") "id EQUALS 'abc'") ∧
    CountedTable .json orderedItems orderedPlan hugeService (itemRows hugeIds)
      (itemRows hugeIds) ∧
    (orderedItems.count .json hugeService ()).1 = .error (.codec .infinite "") := by
  have hunsent : textPlan.readRequest? .odata4 =
      .error (.codec (.cast "'abc'" "Int32") "id EQUALS 'abc'") := by decide +kernel
  have hunsorted : sortRows orderedPlan.localSorters (itemRows hugeIds) =
      .error (.codec .infinite "") := by decide +kernel
  have hpages : orderedPlan.pagesRemotely .json = .ok false := by decide +kernel
  have hsent : orderedPlan.readRequest? .json = .ok (some (itemsRequest [])) := by decide +kernel
  refine ⟨?_, by decide +kernel, countedTable_hugeItems, ?_⟩
  · exact {
      plain := ⟨rfl, by decide, rfl, rfl, .inl rfl⟩
      divided := rfl
      keeps := by decide +kernel
      written := by decide +kernel
      served := fun request hr => by rw [hunsent] at hr; cases hr
      asked := fun request hr => by rw [hunsent] at hr; cases hr }
  · obtain ⟨outcome, s', hrun, htotal⟩ :=
      countedTable_hugeItems.exists_run_local hsent hpages ()
    rw [Query.count_of_local countedTable_hugeItems.divided hpages, hrun]
    rw [hunsorted] at htotal
    exact htotal

end EntityQuery
