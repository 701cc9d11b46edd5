import EntityQuery.Proofs.PageCount
import EntityQuery.Proofs.RowEntries

/-!
# A row beyond the limit

A query document asks for one row more than the limit of the query, and shows by it that there are
more rows behind the window. What the arguments of the document ask for is the window of the query,
one row longer (`Plan.windowByArguments_eq`), so that the rows of the read are those of the window
and the row beyond it is never among them (`read_of_documentPage`). Without a limit there is no such
row, and only a counter beside the rows can claim that there are more.
-/

namespace EntityQuery

/-- What the arguments of a query document ask for: the rows behind an offset, up to a limit. An
argument that is not there asks for nothing. -/
def windowByArguments (offsetName limitName : String) (arguments : Row) (rows : List Row) :
    List Row :=
  let behind := match arguments.get? offsetName with
    | some (.int n) => rows.drop n.toNat
    | _ => rows
  match arguments.get? limitName with
  | some (.int n) => behind.take n.toNat
  | _ => behind

/-- The offset and the limit of a document have names, and none of them is that of the other or of a
condition that is sent. -/
structure Plan.NamesWindow (p : Plan) (offsetName limitName : String) : Prop where
  offset : nonEmpty? p.options.graphqlOffsetArgument = some offsetName
  limit : nonEmpty? p.options.graphqlLimitArgument = some limitName
  distinct : offsetName ≠ limitName
  own : ∀ c ∈ p.remote.leaves, ∀ name ∈ FilterStyle.arguments.remoteParameter? c,
    name ≠ offsetName ∧ name ≠ limitName

/-- A read by a query document with a name for each part of the window, from a service that answers
with `body`: the rows `matching`, cut as the arguments of the document ask for it. -/
structure DocumentPage {σ : Type} (q : Query) (p : Plan) (t : Transport σ) (s : σ)
    (offsetName limitName : String) (request : Request) (arguments : Row) (matching : List Row)
    (body : Body) : Prop where
  offset_nonneg : 0 ≤ q.offset
  limit_nonneg : 0 ≤ q.limit
  keepsGroups : Plan.keepsGroups q.entity.options
  divided : Plan.of .graphql q = .ok p
  names : p.NamesWindow offsetName limitName
  remotely : p.pagesRemotely .graphql = .ok true
  compiled : p.readRequest? .graphql = .ok (some request)
  carried : p.documentArguments .graphql = .ok arguments
  answered : ∃ answer s', t.send request s = (.ok answer, s') ∧
    Body.ofResponse .graphql answer = .ok body
  rows_eq : body.rows .graphql p.query false =
    .ok (windowByArguments offsetName limitName arguments matching)

/-- A name that no condition is sent under is not among the arguments. -/
theorem Group.get?_arguments_eq_none {g : Group} {t : FilterStyle} {name : String}
    (h : ∀ c ∈ g.leaves, t.remoteParameter? c ≠ some name) :
    (g.arguments t).get? name = none := by
  refine Row.get?_foldl_put [] fun e he => ?_
  obtain ⟨c, hc, hsent⟩ := List.mem_filterMap.1 he
  obtain ⟨parameter, hparameter, rfl⟩ := Option.map_eq_some_iff.1 hsent
  rintro rfl
  exact h c hc hparameter

namespace Plan

variable {p : Plan} {arguments : Row} {offsetName limitName : String}

/-- The arguments of a document carry the offset and one row more than the limit, each only where
it is positive. -/
theorem get?_arguments (hnames : p.NamesWindow offsetName limitName)
    (hremotely : p.pagesRemotely .graphql = .ok true)
    (hargs : p.documentArguments .graphql = .ok arguments) :
    arguments.get? offsetName =
        (if 0 < p.query.offset then some (.int p.query.offset) else none) ∧
      arguments.get? limitName =
        if 0 < p.query.limit then some (.int (p.query.limit + 1)) else none := by
  have hnoOffset : (p.remote.arguments .arguments).get? offsetName = none :=
    Group.get?_arguments_eq_none fun c hc hsent => (hnames.own c hc _ hsent).1 rfl
  have hnoLimit : (p.remote.arguments .arguments).get? limitName = none :=
    Group.get?_arguments_eq_none fun c hc hsent => (hnames.own c hc _ hsent).2 rfl
  have hoffset : nonEmpty? (Dialect.graphql.offsetParam? p.options) = some offsetName :=
    hnames.offset
  have hlimit : Dialect.graphql.limitParam? p.options = some limitName :=
    nonEmpty?_eq_some hnames.limit
  have hstyle : Dialect.graphql.filterStyle = .arguments := rfl
  rw [documentArguments, hremotely] at hargs
  cases hargs
  simp only [hstyle, Dialect.windowArguments, hoffset, hlimit]
  split_ifs <;>
    simp [Row.get?_put, hnames.distinct, Ne.symm hnames.distinct, hnoOffset, hnoLimit]

/-- The arguments of a document ask for the window of the query, one row longer. -/
theorem windowByArguments_eq (hnames : p.NamesWindow offsetName limitName)
    (hremotely : p.pagesRemotely .graphql = .ok true)
    (hargs : p.documentArguments .graphql = .ok arguments) (rows : List Row) :
    windowByArguments offsetName limitName arguments rows = applyWindow p.query.offset
      (if Dialect.graphql.readsExtraRow p.options p.query.limit then p.query.limit + 1
        else p.query.limit) rows := by
  obtain ⟨hgetOffset, hgetLimit⟩ := get?_arguments hnames hremotely hargs
  obtain ⟨hdialect, -⟩ := pagesRemotely_eq_true hremotely
  have hextra : Dialect.graphql.readsExtraRow p.options p.query.limit =
      decide (0 < p.query.limit) := by
    simp [Dialect.readsExtraRow, hdialect]
  have hbehind : (match arguments.get? offsetName with
      | some (.int n) => rows.drop n.toNat
      | _ => rows) = rows.drop p.query.offset.toNat := by
    rw [hgetOffset]
    split_ifs with hpos
    · rfl
    · have hzero : p.query.offset.toNat = 0 := by omega
      rw [hzero, List.drop_zero]
  rw [windowByArguments, hbehind, hgetLimit, hextra]
  by_cases hpos : 0 < p.query.limit
  · have hsucc : 0 < p.query.limit + 1 := by omega
    simp [applyWindow, hpos, hsucc]
  · simp [applyWindow, hpos]

/-- What becomes of the window that a document asks for. There is no request for the number of rows,
so that without a row beyond the limit a counter beside the rows is all there is. -/
theorem exists_documentWindow {σ : Type} (t : Transport σ) (s : σ) (first : Fetched)
    {matching : List Row} (hremotely : p.pagesRemotely .graphql = .ok true)
    (hoffset : 0 ≤ p.query.offset) (hlimit : 0 ≤ p.query.limit)
    (hrows : first.rows = applyWindow p.query.offset
      (if Dialect.graphql.readsExtraRow p.options p.query.limit then p.query.limit + 1
        else p.query.limit) matching) :
    ∃ window s', p.remoteWindow .graphql t first first.rows s = (.ok window, s') ∧
      window.rows = applyWindow p.query.offset p.query.limit matching ∧
      (window.hasMore = true ↔ p.query.EndsBefore matching ∨ p.query.limit = 0 ∧
        ∃ n ∈ first.count, p.query.offset < n ∧ (matching.length : Int) < n) := by
  have hask : p.askCount .graphql t first.request s = (.ok none, s) := rfl
  cases hextra : Dialect.graphql.readsExtraRow p.options p.query.limit with
  | true =>
    have hpos := Dialect.limit_pos_of_readsExtraRow hextra
    have hnone : p.query.limit ≠ 0 := by omega
    obtain ⟨window, s', hwindow, hwindowRows, hmore, -⟩ :=
      exists_remoteWindow_of_matching hoffset hlimit (by simp [hextra]) hrows hask
    refine ⟨window, s', hwindow, hwindowRows, ?_⟩
    simp [hmore, hextra, hnone]
  | false =>
    obtain ⟨hdialect, -⟩ := pagesRemotely_eq_true hremotely
    have hzero : p.query.limit = 0 := by
      simp only [Dialect.readsExtraRow, hdialect] at hextra
      simp at hextra
      omega
    rw [hextra, if_neg Bool.false_ne_true] at hrows
    have htold : p.query.toldCount first.count none = first.count := by simp [Query.toldCount]
    obtain ⟨s', hwindow⟩ := remoteWindow_of_told first first.rows hextra hask
    refine ⟨_, s', hwindow, hrows, ?_⟩
    have hlength : first.rows.length = matching.length - p.query.offset.toNat := by
      rw [hrows, length_applyWindow, if_neg (by omega)]
    rw [htold]
    cases first.count with
    | none => simp [Query.EndsBefore, hzero]
    | some n =>
      simp [Query.EndsBefore, hzero, hlength]
      omega

end Plan

section Read

variable {σ : Type} {q : Query} {p : Plan} {t : Transport σ} {s : σ}
  {offsetName limitName : String} {request : Request} {arguments : Row} {matching : List Row}
  {body : Body} {count : Option Int}

/-- The rows of a read by a query document are those of the window of the query. It reports more
rows exactly where there are some behind the window or, without a limit, where a counter beside the
rows tells a larger number. -/
theorem read_of_documentPage
    (h : DocumentPage q p t s offsetName limitName request arguments matching body)
    (hcount : body.count .graphql p.entity = .ok count) :
    ∃ result s', q.read .graphql t s = (.ok result, s') ∧
      result.rows = applyWindow q.offset q.limit matching ∧
      (result.hasMore = true ↔ q.EndsBefore matching ∨
        q.limit = 0 ∧ ∃ n ∈ count, q.offset < n ∧ (matching.length : Int) < n) := by
  obtain ⟨ho, hl⟩ := Plan.query_window_eq h.divided
  obtain ⟨answer, s', hsend, hbody⟩ := h.answered
  have hoffset : 0 ≤ p.query.offset := ho ▸ h.offset_nonneg
  have hlimit : 0 ≤ p.query.limit := hl ▸ h.limit_nonneg
  have hkept : Plan.keepsGroups p.options := Plan.options_eq h.divided ▸ h.keepsGroups
  have hfetch := Plan.fetchAll_of_answer h.compiled hsend hbody h.rows_eq hcount
  have hreceived := Plan.windowByArguments_eq h.names h.remotely h.carried matching
  obtain ⟨window, s'', hwindow, hrows, hmore⟩ := Plan.exists_documentWindow t s'
    ⟨request, windowByArguments offsetName limitName arguments matching, count⟩ h.remotely hoffset
    hlimit hreceived
  refine ⟨p.closeWindow { window with rows := p.grouped window.rows }, s'', ?_, ?_, ?_⟩
  · rw [Query.read, Exchange.lift_bind_of_ok _ h.divided,
      Plan.run_of_window h.remotely hfetch hwindow]
  · rw [Plan.rows_closeWindow, Plan.grouped_of_keepsGroups hkept, hrows, ho, hl]
  · simp only [Query.EndsBefore] at hmore ⊢
    rw [Plan.hasMore_closeWindow, hmore, ho, hl]

/-- Names for the offset and the limit, and a place for a counter. -/
def totalOptions : EntityOptions :=
  { graphqlOffsetArgument := some "skip", graphqlLimitArgument := some "take",
    responseTotalCountPath := some "data/total" }

def totalPage (ids : List Int) (total : Value) : Value :=
  .map [("data", .map [("items", pageOf ids), ("total", total)])]

/-- The document that asks for items with given arguments. -/
def itemsDocument (arguments : Row) : Request :=
  Graphql.request totalOptions (Graphql.queryDocument "items" ["id"] arguments)

/-- Whether a page of items is what the arguments of a query ask for. -/
def ItemsCutBy (offset limit : Int) (arguments : Row) (shelf ids : List Int) (total : Value) :
    Prop :=
  DocumentPage (itemsPage totalOptions offset limit) (itemsPagePlan totalOptions offset limit)
    (itemService (totalPage ids total)) () "skip" "take" (itemsDocument arguments) arguments
    (itemRows shelf) (.data (totalPage ids total))

theorem itemsCutBy {offset limit : Int} {arguments : Row} {shelf ids : List Int} {total : Value}
    (hoffset : 0 ≤ offset) (hlimit : 0 ≤ limit)
    (hr : (itemsPagePlan totalOptions offset limit).readRequest? .graphql =
      .ok (some (itemsDocument arguments)))
    (hargs : (itemsPagePlan totalOptions offset limit).documentArguments .graphql = .ok arguments)
    (hbody : Body.ofResponse .graphql { text := Json.write Json.compact (totalPage ids total) } =
      .ok (.data (totalPage ids total)))
    (hrows : (Body.data (totalPage ids total)).rows .graphql (itemsPage totalOptions offset limit)
      false = .ok (windowByArguments "skip" "take" arguments (itemRows shelf))) :
    ItemsCutBy offset limit arguments shelf ids total where
  offset_nonneg := hoffset
  limit_nonneg := hlimit
  keepsGroups := .inl rfl
  divided := rfl
  names := by
    have hnone : (itemsPagePlan totalOptions offset limit).remote.leaves = [] := rfl
    exact ⟨rfl, rfl, by decide, by simp [hnone]⟩
  remotely := rfl
  compiled := hr
  carried := hargs
  answered := ⟨_, (), rfl, hbody⟩
  rows_eq := hrows

/-- The rows 2 and 3 of five, of which the service hands over the row 4 as well. -/
theorem read_totalPage_extra :
    ItemsCutBy 1 2 [("skip", .int 1), ("take", .int 3)] [1, 2, 3, 4, 5] [2, 3, 4] (.int 5) ∧
    ∃ result s', (itemsPage totalOptions 1 2).read .graphql
        (itemService (totalPage [2, 3, 4] (.int 5))) () = (.ok result, s') ∧
      result.rows = itemRows [2, 3] ∧ result.hasMore = true := by
  have h : ItemsCutBy 1 2 [("skip", .int 1), ("take", .int 3)] [1, 2, 3, 4, 5] [2, 3, 4]
      (.int 5) :=
    itemsCutBy (by decide) (by decide) (by decide +kernel) (by decide +kernel) (by decide +kernel)
      (by decide +kernel)
  have hcount : (Body.data (totalPage [2, 3, 4] (.int 5))).count .graphql
      (itemsPagePlan totalOptions 1 2).entity = .ok (some 5) := by decide +kernel
  obtain ⟨result, s', hread, hrows, hmore⟩ := read_of_documentPage h hcount
  exact ⟨h, result, s', hread, hrows, hmore.2 (.inl (by decide))⟩

/-- Without a limit, a counter that tells more rows than there are is believed, and a counter that
is no number but looks like one ends the read. -/
theorem read_totalPage_miscounted :
    (ItemsCutBy 0 0 [] [1, 2] [1, 2] (.int 5) ∧
      ¬(itemsPage totalOptions 0 0).EndsBefore (itemRows [1, 2]) ∧
      ((itemsPage totalOptions 0 0).read .graphql (itemService (totalPage [1, 2] (.int 5))) ()).1 =
        .ok { rows := itemRows [1, 2], total := some 5, hasMore := true }) ∧
    ItemsCutBy 0 2 [("take", .int 3)] [1, 2, 3] [1, 2, 3] (.str "²") ∧
      ((itemsPage totalOptions 0 2).read .graphql
        (itemService (totalPage [1, 2, 3] (.str "²"))) ()).1 = .error (.malformed .number) := by
  refine ⟨⟨?_, by decide, by decide +kernel⟩, ?_, by decide +kernel⟩ <;>
    exact itemsCutBy (by decide) (by decide) (by decide +kernel) (by decide +kernel)
      (by decide +kernel) (by decide +kernel)

end Read

end EntityQuery
