import EntityQuery.Proofs.LeafNumber
import EntityQuery.Proofs.ReadAddress
import EntityQuery.Proofs.RequestLog
import EntityQuery.Proofs.TableQuery

/-!
# Plain reads

A query that is read from the address of its entity as it stands (`Query.ReadsPlainly`) takes one
request, and what the service leaves undone is done on the rows of its answer.
-/

namespace EntityQuery

open Text

/-- Queries that are read from the address of their entity as it stands, all groups of rows
included. -/
structure Query.ReadsPlainly (q : Query) : Prop where
  noItemAddress : nonEmpty? q.entity.options.uidRequestDataAddress = none
  noOwnAddress : ∀ c ∈ q.filters.leaves, nonEmpty? c.options.filterRemoteUrl = none
  noPlaceholders : placeholders q.entity.dataAddress = []
  unforced : q.entity.options.forceFiltering = false
  keepsGroups : Plan.keepsGroups q.entity.options

namespace Plan

variable {d : Dialect} {q : Query} {p : Plan}

theorem options_eq (h : Plan.of d q = .ok p) : p.options = q.entity.options := by
  obtain ⟨-, -, -, -, -, -, attributes, hquery⟩ := of_eq_ok h
  rw [options, hquery]

theorem entity_eq (h : Plan.of d q = .ok p) : p.entity = q.entity := by
  obtain ⟨-, -, -, -, -, -, attributes, hquery⟩ := of_eq_ok h
  rw [entity, hquery]

theorem itemCondition?_eq_none (h : Plan.of d q = .ok p) (hq : q.ReadsPlainly) :
    p.itemCondition? = .ok none := by
  rw [itemCondition?, options_eq h, hq.noItemAddress]

theorem noOwnAddress (h : Plan.of d q = .ok p) (hq : q.ReadsPlainly) :
    ∀ l ∈ p.topLevel, nonEmpty? l.2.options.filterRemoteUrl = none := by
  obtain ⟨filters, hsplit, hremote, hlocal, -⟩ := of_eq_ok h
  obtain ⟨hsent, hlater⟩ := (forall_leaves_split (fun _ => Iff.rfl) hsplit).1 hq.noOwnAddress
  intro l hl
  rw [topLevel, hremote, hlocal, List.mem_append] at hl
  rcases hl with hl | hl <;> obtain ⟨x, hx, rfl⟩ := List.mem_map.1 hl
  · exact hsent _ (Group.mem_leaves_of_mem_topLevel hx)
  · exact hlater _ (Group.mem_leaves_of_mem_topLevel hx)

/-- A plain query is read from the address of its entity, adapted. -/
theorem endpoint_eq (h : Plan.of d q = .ok p) (hq : q.ReadsPlainly) :
    ∃ address, p.endpoint d = (do pure ⟨some (← adaptAddress p.options address), []⟩) := by
  have hplaces : placeholders p.entity.dataAddress = [] := by rw [entity_eq h, hq.noPlaceholders]
  have hfill : ∀ name ∈ placeholders p.entity.dataAddress, ∃ text : String, none = some text := by
    simp [hplaces]
  obtain ⟨address, haddress⟩ := exists_fillPlaceholders?_eq_some (fun _ => none) hfill
  exact ⟨address, endpoint_of_noPlaceholder (itemCondition?_eq_none h hq)
    (fun l hl => .inl (noOwnAddress h hq l hl)) hplaces haddress⟩

/-- Nothing keeps a plain query from being sent. -/
theorem exists_request (h : Plan.of d q = .ok p) (hq : q.ReadsPlainly) {r : Option Request}
    (hr : p.readRequest? d = .ok r) : ∃ request, r = some request := by
  have hlacks : p.lacksFilters = false := by
    rw [lacksFilters, options_eq h, hq.unforced, Bool.false_and, Bool.false_and]
  by_cases hd : d = .graphql
  · subst hd
    obtain ⟨hlacking, -⟩ | ⟨fields, arguments, -, rfl⟩ := readRequest?_document_cases hr
    · cases hlacks.symm.trans hlacking
    · exact ⟨_, rfl⟩
  obtain ⟨address, haddress⟩ := endpoint_eq h hq
  rcases readRequest?_cases hd hr with ⟨hlacking, -⟩ | ⟨e, he, hnone, -⟩ |
    ⟨e, address, params, -, -, -, rfl⟩
  · rw [hlacks] at hlacking
    cases hlacking
  · rw [haddress] at he
    obtain ⟨adapted, -, he⟩ := Except.bind_eq_ok_iff.1 he
    cases he
    cases hnone
  · exact ⟨_, rfl⟩

/-- The window of a plain query is left to a service that can cut it where nothing else is left to
be done after reading. -/
theorem pagesRemotely_of_plain (h : Plan.of d q = .ok p) (hq : q.ReadsPlainly) :
    p.pagesRemotely d = .ok (d.pagesRemotely p.options &&
      (p.localFilters.isEmpty && p.localSorters.isEmpty)) := by
  rw [pagesRemotely, itemCondition?_eq_none h hq]
  cases d.pagesRemotely p.options <;> cases p.localFilters.isEmpty <;>
    cases p.localSorters.isEmpty <;> rfl

theorem pagesRemotely_eq (h : Plan.of d q = .ok p) (hq : q.ReadsPlainly) (hd : d.isOData = true) :
    p.pagesRemotely d = .ok (p.localFilters.isEmpty && p.localSorters.isEmpty) := by
  have hdialect : d.pagesRemotely p.options = true := by cases d <;> first | rfl | cases hd
  rw [pagesRemotely_of_plain h hq, hdialect, Bool.true_and]

/-- What the service of a table hands over: the rows that meet what is sent, in the order that is
sent, cut to the window where the service is to cut it. -/
def served (p : Plan) (d : Dialect) (table : List Row) : List Row :=
  match p.pagesRemotely d with
  | .ok true => applyWindow p.query.offset p.query.limit (p.handed table)
  | _ => p.handed table

variable {σ : Type} {t : Transport σ} {request : Request} {s : σ} {rows : List Row} {n : Int}

theorem fetchAll_of_answer {answer : Response} {body : Body} {count : Option Int} {s' : σ}
    (hr : p.readRequest? d = .ok (some request)) (hsend : t.send request s = (.ok answer, s'))
    (hbody : Body.ofResponse d answer = .ok body) (hrows : body.rows d p.query false = .ok rows)
    (hcount : body.count d p.entity = .ok count) :
    fetchAll d t false [p] s = (.ok [⟨request, rows, count⟩], s') := by
  have hone := fetch?_of_answer hr hsend hbody hrows hcount
  rw [fetchAll, Exchange.bind_of_ok _ hone]
  rfl

theorem isItemScoped_of_none (hitem : p.itemCondition? = .ok none) :
    p.isItemScoped = .ok false := by
  rw [isItemScoped, hitem]
  rfl

theorem fanOut_of_none (hitem : p.itemCondition? = .ok none) : p.fanOut = .ok [p] := by
  rw [fanOut, hitem]
  rfl

/-- A run on one answer, as far as the decoding of its rows. -/
theorem run_of_fetched (hitem : p.itemCondition? = .ok none) {remotely : Bool}
    (hremotely : p.pagesRemotely d = .ok remotely) {first : Fetched} {s' : σ}
    (hfetch : fetchAll d t false [p] s = (.ok [first], s')) :
    p.run d t s = (if remotely then do
        let window ← p.remoteWindow d t first first.rows
        pure (p.closeWindow { window with rows := ← p.refine window.rows })
      else do pure (p.localWindow (← p.refine first.rows)) : Exchange σ ReadResult) s' := by
  rw [run, Exchange.lift_bind_of_ok _ (isItemScoped_of_none hitem),
    Exchange.lift_bind_of_ok _ hremotely, Exchange.lift_bind_of_ok _ (fanOut_of_none hitem),
    Exchange.bind_of_ok _ hfetch]
  simp only [List.flatMap_cons, List.flatMap_nil, List.append_nil]

theorem run_of_unfetched (hitem : p.itemCondition? = .ok none) {remotely : Bool}
    (hremotely : p.pagesRemotely d = .ok remotely) {e : Error} {s' : σ}
    (hfetch : p.fetch? d t false s = (.error e, s')) : p.run d t s = (.error e, s') := by
  rw [run, Exchange.lift_bind_of_ok _ (isItemScoped_of_none hitem),
    Exchange.lift_bind_of_ok _ hremotely, Exchange.lift_bind_of_ok _ (fanOut_of_none hitem),
    fetchAll]
  exact Exchange.bind_of_error _ (Exchange.bind_of_error _ hfetch)

/-- The service answers a request with given rows. Wherever it gives their number, beside the rows
or when asked for it, that is `n`. -/
def Serves (p : Plan) (d : Dialect) (t : Transport σ) (request : Request) (s : σ)
    (rows : List Row) (n : Int) : Prop :=
  ∃ answer body s', t.send request s = (.ok answer, s') ∧ Body.ofResponse d answer = .ok body ∧
    body.rows d p.query false = .ok rows ∧
    (body.count d p.entity = .ok none ∨ body.count d p.entity = .ok (some n)) ∧
    ∀ asked, p.countRequest? d request = some asked →
      ∃ counted s'', t.send asked s' = (.ok counted, s'') ∧
        parseCount (.str counted.text) = .ok (some n)

theorem fetchAll_of_serves (hr : p.readRequest? d = .ok (some request))
    (hs : p.Serves d t request s rows n) (hd : d.isOData = true) :
    ∃ count s', fetchAll d t false [p] s = (.ok [⟨request, rows, count⟩], s') ∧
      (count = none ∨ count = some n) ∧
      ∃ s'', p.askCount d t request s' = (.ok (some n), s'') := by
  obtain ⟨answer, body, s', hsend, hbody, hrows, hcount, hasked⟩ := hs
  have hask : ∃ s'', p.askCount d t request s' = (.ok (some n), s'') := by
    obtain ⟨asked, ha⟩ : ∃ asked, p.countRequest? d request = some asked :=
      ⟨_, by rw [countRequest?, Dialect.countRequest?, if_pos hd]⟩
    obtain ⟨counted, s'', hsend', hparse⟩ := hasked asked ha
    refine ⟨s'', ?_⟩
    rw [askCount, ha]
    refine (Exchange.bind_of_ok _
      (Exchange.tryCatch_of_ok _ (Exchange.map_of_ok some hsend'))).trans ?_
    simp only [hparse]
    rfl
  rcases hcount with hc | hc
  · exact ⟨none, s', fetchAll_of_answer hr hsend hbody hrows hc, .inl rfl, hask⟩
  · exact ⟨some n, s', fetchAll_of_answer hr hsend hbody hrows hc, .inr rfl, hask⟩

/-- The total of a window that the service cut stays open only where there is no window. -/
theorem remoteWindow_eq (hd : d.isOData = true) (first : Fetched) (rows : List Row) {s' s'' : σ}
    (hask : p.askCount d t first.request s' = (.ok (some n), s''))
    (hcount : first.count = none ∨ first.count = some n) :
    ∃ s₂ total, p.remoteWindow d t first rows s' =
        (.ok { rows := rows, total := total, hasMore := match total with
          | some n => decide (p.query.offset + rows.length < n)
          | none => false }, s₂) ∧
      (total = some n ∨ total = none ∧ ¬0 < p.query.limit ∧ ¬0 < p.query.offset) := by
  have hextra : d.readsExtraRow p.options p.query.limit = false := by
    cases d <;> first | rfl | cases hd
  rw [remoteWindow, hextra, if_neg Bool.false_ne_true]
  rcases hcount with hc | hc
  · by_cases hw : 0 < p.query.limit ∨ 0 < p.query.offset
    · rw [hc, if_pos (by simpa using hw), Exchange.bind_of_ok _ hask]
      exact ⟨s'', _, rfl, .inl rfl⟩
    · rw [hc, if_neg (by simpa using hw)]
      exact ⟨s', _, rfl, .inr ⟨rfl, not_or.1 hw⟩⟩
  · rw [hc, if_neg (by simp)]
    exact ⟨s', _, rfl, .inl rfl⟩

variable {table kept sorted : List Row} {expected : ReadResult}

theorem query_window_eq (h : Plan.of d q = .ok p) :
    p.query.offset = q.offset ∧ p.query.limit = q.limit := by
  obtain ⟨-, -, -, -, -, -, attributes, hquery⟩ := of_eq_ok h
  rw [hquery]
  exact ⟨rfl, rfl⟩

/-- Where the service cuts the window, its rows are the result. -/
theorem run_of_remote (h : Plan.of d q = .ok p) (hq : q.ReadsPlainly) (hd : d.isOData = true)
    (hoffset : 0 ≤ q.offset) (hlimit : 0 ≤ q.limit) (hremotely : p.pagesRemotely d = .ok true)
    (hr : p.readRequest? d = .ok (some request))
    (hs : p.Serves d t request s (p.served d table) (p.met table).length)
    (he : q.evaluate table = .ok expected) : ∃ s', p.run d t s = (.ok expected, s') := by
  obtain ⟨kept, sorted, hkept, hsorted, rfl⟩ := Query.evaluate_eq_ok_iff.1 he
  obtain ⟨ho, hl⟩ := query_window_eq h
  have hlocal := pagesRemotely_eq h hq hd
  rw [hremotely] at hlocal
  have hlater : p.localFilters.isEmpty = true ∧ p.localSorters = [] := by
    simpa using (Except.ok.inj hlocal).symm
  have hhanded := handed_eq h hlater.1 hlater.2 hkept hsorted
  have hlength : (p.met table).length = sorted.length := by
    rw [← hhanded, handed, (perm_applySorters _ _).length_eq]
  obtain ⟨count, s', hfetch, hcount, s'', hask⟩ := fetchAll_of_serves hr hs hd
  have hserved : p.served d table = applyWindow q.offset q.limit sorted := by
    rw [served, hremotely, ho, hl, hhanded]
  rw [hserved] at hfetch
  obtain ⟨s₂, total, hwindow, htotal⟩ := remoteWindow_eq hd
    ⟨request, applyWindow q.offset q.limit sorted, count⟩
    (applyWindow q.offset q.limit sorted) hask hcount
  have hgroups : keepsGroups p.options := by rw [options_eq h]; exact hq.keepsGroups
  refine ⟨s₂, ?_⟩
  rw [run_of_fetched (itemCondition?_eq_none h hq) hremotely hfetch, if_pos rfl,
    Exchange.bind_of_ok _ hwindow,
    Exchange.lift_bind_of_ok _ (refine_of_isEmpty hgroups hlater.1 hlater.2 _)]
  rcases htotal with rfl | ⟨rfl, hl0, ho0⟩
  · rw [hlength, ho]
    rfl
  · have hq0 : q.offset = 0 ∧ q.limit = 0 := by omega
    have hall : applyWindow 0 0 sorted = sorted := rfl
    rw [closeWindow, ho, hl, hq0.1, hq0.2, hall]
    simp [Exchange.pure_apply]

/-- Where the window is cut after reading, the result has the rows that the query keeps, in the
order of its sorters unless sorting before filtering makes a difference. -/
theorem run_of_local (h : Plan.of d q = .ok p) (hq : q.ReadsPlainly) (hd : d.isOData = true)
    (hremotely : p.pagesRemotely d = .ok false) (hr : p.readRequest? d = .ok (some request))
    (hs : p.Serves d t request s (p.served d table) n)
    (hkept : applyFilters q.filters table = .ok kept)
    (hsorted : sortRows q.sorters kept = .ok sorted) :
    ∃ s' arranged, arranged.Perm sorted ∧
      (p.sorters = [] ∨ Sorter.Consistent q.sorters (p.met table) → arranged = sorted) ∧
      p.run d t s = (.ok (p.localWindow arranged), s') := by
  have hserved : p.served d table = p.handed table := by rw [served, hremotely]
  have hgroups : keepsGroups p.options := by rw [options_eq h]; exact hq.keepsGroups
  obtain ⟨arranged, hrefine, hperm, horder⟩ := refine_handed h hgroups hkept hsorted
  obtain ⟨count, s', hfetch, -⟩ := fetchAll_of_serves hr hs hd
  refine ⟨s', arranged, hperm, horder, ?_⟩
  rw [run_of_fetched (itemCondition?_eq_none h hq) hremotely hfetch,
    if_neg Bool.false_ne_true, hserved,
    Exchange.lift_bind_of_ok _ hrefine]
  rfl

end Plan

/-- A plain read of a table from a service of OData that does what it is asked for. -/
structure TableRead {σ : Type} (d : Dialect) (q : Query) (p : Plan) (t : Transport σ) (s : σ)
    (table : List Row) (expected : ReadResult) : Prop where
  odata : d.isOData = true
  plain : q.ReadsPlainly
  offset_nonneg : 0 ≤ q.offset
  limit_nonneg : 0 ≤ q.limit
  divided : Plan.of d q = .ok p
  compiled : ∃ r, p.readRequest? d = .ok r
  served : ∀ request, p.readRequest? d = .ok (some request) →
    p.Serves d t request s (p.served d table) (p.met table).length
  evaluated : q.evaluate table = .ok expected

theorem length_applyWindow_congr (offset limit : Int) {rows rows' : List Row}
    (h : rows.length = rows'.length) :
    (applyWindow offset limit rows).length = (applyWindow offset limit rows').length := by
  unfold applyWindow
  split_ifs <;> simp [h]

/-- A plain read of a table ends well. Its total, its number of rows and whether there are more are
those of the query on the table, and its rows are a window of the rows that the query keeps. It is
all that the query gives where the service cuts the window, where no sorter is sent, and where the
sorters put the rows that the service hands over in one order. -/
theorem read_of_tableRead {σ : Type} {d : Dialect} {q : Query} {p : Plan} {t : Transport σ} {s : σ}
    {table : List Row} {expected : ReadResult} (h : TableRead d q p t s table expected) :
    ∃ result s', q.read d t s = (.ok result, s') ∧ result.total = expected.total ∧
      result.hasMore = expected.hasMore ∧ result.rows.length = expected.rows.length ∧
      (∃ arranged, arranged.Perm (table.filter fun row => q.filters.holds row) ∧
        result.rows = applyWindow q.offset q.limit arranged) ∧
      (p.pagesRemotely d = .ok true ∨ p.sorters = [] ∨
        Sorter.Consistent q.sorters (p.met table) → result = expected) := by
  obtain ⟨hd, hq, hoffset, hlimit, hp, ⟨r, hr⟩, hserved, he⟩ := h
  obtain ⟨request, rfl⟩ := Plan.exists_request hp hq hr
  have hs := hserved request hr
  obtain ⟨kept, sorted, hkept, hsorted, hexpected⟩ := Query.evaluate_eq_ok_iff.1 he
  obtain ⟨-, rfl⟩ := applyFilters_eq_ok_iff.1 hkept
  obtain ⟨-, rfl⟩ := sortRows_eq_ok_iff.1 hsorted
  have hread : q.read d t s = p.run d t s := by
    rw [Query.read, Exchange.lift_bind_of_ok _ hp]
  have hpages := Plan.pagesRemotely_eq hp hq hd
  rw [hread]
  cases hremotely : p.localFilters.isEmpty && p.localSorters.isEmpty with
  | true =>
    rw [hremotely] at hpages
    obtain ⟨s', hrun⟩ := Plan.run_of_remote hp hq hd hoffset hlimit hpages hr hs he
    refine ⟨expected, s', hrun, rfl, rfl, rfl, ⟨_, perm_applySorters q.sorters _, ?_⟩,
      fun _ => rfl⟩
    rw [hexpected]
  | false =>
    rw [hremotely] at hpages
    obtain ⟨s', arranged, hperm, horder, hrun⟩ :=
      Plan.run_of_local hp hq hd hpages hr hs hkept hsorted
    obtain ⟨ho, hl⟩ := Plan.query_window_eq hp
    have hwindow := length_applyWindow_congr q.offset q.limit hperm.length_eq
    refine ⟨_, s', hrun, ?_, ?_, ?_, ⟨arranged, hperm.trans (perm_applySorters _ _), ?_⟩, ?_⟩
    · rw [hexpected, Plan.localWindow, hperm.length_eq]
    · rw [hexpected, Plan.localWindow, ho, hl, hwindow, hperm.length_eq]
    · rw [hexpected, Plan.localWindow, ho, hl, hwindow]
    · rw [Plan.localWindow, ho, hl]
    · rintro (hc | hc)
      · rw [hpages] at hc
        cases hc
      · rw [hexpected, Plan.localWindow, ho, hl, horder hc]

def stock : Query :=
  let name : Attribute := { name := "name", dataAddress := "name" }
  let count : Attribute :=
    { name := "count", dataAddress := "count", options := { filterRemote := some false } }
  { entity := { name := "stock", dataAddress := "stock", attributes := [name, count] }
    filters := .mk .and [.condition { target := .attribute count, value := .int 1 }] []
    sorters := [{ target := .attribute name }] }

def stockPlan : Plan :=
  { query := stock, localFilters := stock.filters.markLocal, sorters := stock.sorters }

def stockRow (name : String) (count : Int) : Row := [("name", .str name), ("count", .int count)]

/-- The body that holds given rows. -/
def shelfBody (rows : List Row) : Value := .map [("d", .map [("results", .list (rows.map .map))])]

/-- A service that hands over the same rows every time, and their number when asked for it. -/
def shelf (rows : List Row) : Transport Unit where
  baseUrl := ""
  send r := pure { text :=
    if r.headers = [("Accept", "text/plain")] then Number.integerText rows.length
    else Json.write Json.compact (shelfBody rows) }
  freshName := pure ""

def stockRequest : Request :=
  .withParams "GET" "stock" [("$orderby", some "name asc"), ("$format", some "json")]
    Dialect.odata2.readHeaders

theorem stockPlan_readRequest? : stockPlan.readRequest? .odata2 = .ok (some stockRequest) := by
  decide +kernel

theorem tableRead_shelf {rows : List Row} {expected : ReadResult}
    (hserved : stockPlan.served .odata2 rows = rows)
    (hbody : Body.ofResponse .odata2 { text := Json.write Json.compact (shelfBody rows) } =
      .ok (.data (shelfBody rows)))
    (hrows : (Body.data (shelfBody rows)).rows .odata2 stock false = .ok rows)
    (hcount : (Body.data (shelfBody rows)).count .odata2 stock.entity = .ok none)
    (hasked : parseCount (.str (Number.integerText rows.length)) =
      .ok (some ((stockPlan.met rows).length : Int)))
    (he : stock.evaluate rows = .ok expected) :
    TableRead .odata2 stock stockPlan (shelf rows) () rows expected where
  odata := rfl
  plain := ⟨rfl, by decide, rfl, rfl, .inl rfl⟩
  offset_nonneg := Int.le_refl 0
  limit_nonneg := Int.le_refl 0
  divided := rfl
  compiled := ⟨_, stockPlan_readRequest?⟩
  served := by
    intro request hr
    cases stockPlan_readRequest?.symm.trans hr
    rw [hserved]
    refine ⟨_, .data (shelfBody rows), (), rfl, hbody, hrows, .inl hcount, fun asked ha => ?_⟩
    cases ha
    exact ⟨_, (), rfl, hasked⟩
  evaluated := he

/-- Two of three goods are left, in the order of their names. -/
def orderedStock : List Row := [stockRow "ale" 1, stockRow "bread" 0, stockRow "corn" 1]

/-- Texts and numerals in one column have no order: "10" comes after "9", "9" after "1a", and "1a"
after "10". -/
def unorderedStock : List Row := [stockRow "1a" 1, stockRow "9" 0, stockRow "10" 1]

theorem read_shelf_ordered :
    TableRead .odata2 stock stockPlan (shelf orderedStock) () orderedStock
      { rows := [stockRow "ale" 1, stockRow "corn" 1], total := some 2 } ∧
    ∃ s', stock.read .odata2 (shelf orderedStock) () =
      (.ok { rows := [stockRow "ale" 1, stockRow "corn" 1], total := some 2 }, s') := by
  have h : TableRead .odata2 stock stockPlan (shelf orderedStock) () orderedStock
      { rows := [stockRow "ale" 1, stockRow "corn" 1], total := some 2 } :=
    tableRead_shelf (by decide +kernel) (by decide +kernel) (by decide +kernel)
      (by decide +kernel) (by decide +kernel) (by decide +kernel)
  have horder : Sorter.Consistent stock.sorters (stockPlan.met orderedStock) := by
    unfold Sorter.Consistent
    decide +kernel
  obtain ⟨result, s', hread, -, -, -, -, hall⟩ := read_of_tableRead h
  rw [hall (.inr (.inr horder))] at hread
  exact ⟨h, s', hread⟩

/-- Sorting before filtering gives another order than sorting after it. -/
theorem read_shelf_unordered : ∃ expected result,
    TableRead .odata2 stock stockPlan (shelf unorderedStock) () unorderedStock expected ∧
    (stock.read .odata2 (shelf unorderedStock) ()).1 = .ok result ∧
    result.rows ≠ expected.rows := by
  refine ⟨{ rows := [stockRow "10" 1, stockRow "1a" 1], total := some 2 },
    { rows := [stockRow "1a" 1, stockRow "10" 1], total := some 2 }, ?_, ?_, ?_⟩
  · exact tableRead_shelf (by decide +kernel) (by decide +kernel) (by decide +kernel)
      (by decide +kernel) (by decide +kernel) (by decide +kernel)
  · decide +kernel
  · decide +kernel

end EntityQuery
