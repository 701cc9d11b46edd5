import EntityQuery.Proofs.RemotePage

/-!
# What a page tells about the rows around it

Where the service cuts the window, the number of all rows comes from a counter, from a row that is
read beyond the limit, or from a page that is shorter than the limit (`read_of_countedPage`). The
last two take the offset for a place among the rows. So a total is right where a counter is used,
and otherwise exactly where the page starts within the rows or at their end and is not shortened
after reading (`total_right_iff`). A read that reports no more rows is right where a counter or the
row beyond the limit shows it, and otherwise exactly on the last page, unless that page is shortened
after reading (`noMore_right_iff`).
-/

namespace EntityQuery

open Number

namespace Plan

/-- What a request asks a window with: its offset and its limit. Nothing beside the window of the
query names them. -/
def AsksWindow (p : Plan) (d : Dialect) (r : Request) (offset limit : Int) : Prop :=
  p.Asks d r (d.offsetParam? p.options) offset ∧ p.Asks d r (d.limitParam? p.options) limit ∧
    (p.query.offset = 0 → offset = 0) ∧ (p.query.limit = 0 → limit = 0)

end Plan

theorem Dialect.limit_pos_of_readsExtraRow {d : Dialect} {o : EntityOptions} {limit : Int}
    (h : d.readsExtraRow o limit = true) : 0 < limit := by
  unfold readsExtraRow at h
  simp_all

/-- The number of rows as far as the service tells it: beside the rows, or when asked for it, which
it is not for all rows from the start. -/
def Query.toldCount (q : Query) (inline asked : Option Int) : Option Int :=
  inline.or (if 0 < q.limit ∨ 0 < q.offset then asked else none)

theorem Query.eq_of_mem_toldCount {q : Query} {inline asked : Option Int} {total n : Int}
    (hinline : ∀ n ∈ inline, n = total) (hasked : ∀ n ∈ asked, n = total)
    (h : n ∈ q.toldCount inline asked) : n = total := by
  unfold Query.toldCount at h
  rcases Option.or_eq_some_iff.1 h with h | ⟨-, h⟩
  · exact hinline n h
  · split_ifs at h
    exact hasked n h

/-- A read whose window the service cuts out of the rows `matching`, as the request asks for it.
The counter beside the rows is `inline`, and the answer to a request for the number of rows is
`asked`; each is the number of the rows or missing. -/
structure CountedPage {σ : Type} (d : Dialect) (q : Query) (p : Plan) (t : Transport σ) (s : σ)
    (request : Request) (matching : List Row) (inline asked : Option Int) : Prop where
  offset_nonneg : 0 ≤ q.offset
  limit_nonneg : 0 ≤ q.limit
  names : d.NamesOffset q.entity.options
  divided : Plan.of d q = .ok p
  remotely : p.pagesRemotely d = .ok true
  compiled : p.readRequest? d = .ok (some request)
  answered : ∃ offset limit answer body s', p.AsksWindow d request offset limit ∧
    t.send request s = (.ok answer, s') ∧ Body.ofResponse d answer = .ok body ∧
    body.rows d p.query false = .ok (applyWindow offset limit matching) ∧
    body.count d p.entity = .ok inline ∧ p.TellsCount d t request s' asked
  inline_eq : ∀ n ∈ inline, n = matching.length
  asked_eq : ∀ n ∈ asked, n = matching.length

namespace Plan

variable {d : Dialect} {q : Query} {p : Plan} {request : Request}

/-- A query document carries an offset with a name of its own. -/
theorem exists_offsetArgument (hremotely : p.pagesRemotely .graphql = .ok true)
    (hoffset : 0 < p.query.offset) {name : String}
    (hname : nonEmpty? (Dialect.graphql.offsetParam? p.options) = some name)
    (hown : Dialect.graphql.limitParam? p.options ≠ some name) :
    ∃ arguments, p.documentArguments .graphql = .ok arguments ∧
      arguments.get? name = some (.int p.query.offset) := by
  obtain ⟨hdialect, -⟩ := pagesRemotely_eq_true hremotely
  obtain ⟨limitName, hl⟩ := Dialect.exists_limitName hdialect
  have hlimitName := nonEmpty?_eq_some hl
  have hne : name ≠ limitName := fun h => hown (h ▸ hlimitName)
  rw [documentArguments, hremotely]
  refine ⟨_, rfl, ?_⟩
  by_cases hlimit : 0 < p.query.limit
  · simp [Dialect.windowArguments, hlimit, hlimitName, hname, hoffset, Row.get?_put, hne]
  · simp [Dialect.windowArguments, hlimit, hname, hoffset, Row.get?_put]

/-- The offset that a request asks for is that of the query where it has a name of its own. -/
theorem offset_eq_of_names {offset : Int} (hnames : d.NamesOffset p.options)
    (hoffset : 0 < p.query.offset) (hremotely : p.pagesRemotely d = .ok true)
    (hr : p.readRequest? d = .ok (some request))
    (h : p.Asks d request (d.offsetParam? p.options) offset) : offset = p.query.offset := by
  obtain ⟨name, hname, hown⟩ := hnames
  refine eq_of_asks h hname ?_
  by_cases hd : d = .graphql
  · subst hd
    obtain ⟨arguments, hdoc, hget⟩ :=
      exists_offsetArgument hremotely hoffset hname fun hl => hown ⟨rfl, hl⟩
    simp [sentTexts, hdoc, hget]
    rfl
  · refine mem_sentTexts hd (mem_params_of_mem_windowParams hd hremotely hr ?_)
    simp [Dialect.windowParams, Dialect.numberParam, hname, hoffset]

/-- The limit that a window is asked for with is that of the query, or one row longer. -/
theorem limit_eq_of_asksWindow {offset limit : Int} (hlimit : 0 ≤ p.query.limit)
    (hremotely : p.pagesRemotely d = .ok true) (hr : p.readRequest? d = .ok (some request))
    (h : p.AsksWindow d request offset limit) :
    limit = if d.readsExtraRow p.options p.query.limit then p.query.limit + 1
      else p.query.limit := by
  obtain ⟨hdialect, -⟩ := pagesRemotely_eq_true hremotely
  obtain ⟨-, hasks, -, hzero⟩ := h
  unfold Dialect.readsExtraRow
  by_cases hpos : 0 < p.query.limit
  · rw [limit_eq_of_asks hpos hremotely hr hasks, Dialect.sentLimit]
    simp [hpos, hdialect]
  · have hnone : p.query.limit = 0 := by omega
    simp [hzero hnone, hnone]

theorem offset_eq_of_asksWindow {offset limit : Int} (hnames : d.NamesOffset p.options)
    (hoffset : 0 ≤ p.query.offset) (hremotely : p.pagesRemotely d = .ok true)
    (hr : p.readRequest? d = .ok (some request)) (h : p.AsksWindow d request offset limit) :
    offset = p.query.offset := by
  obtain ⟨hasks, -, hzero, -⟩ := h
  by_cases hpos : 0 < p.query.offset
  · exact offset_eq_of_names hnames hpos hremotely hr hasks
  · have hnone : p.query.offset = 0 := by omega
    rw [hzero hnone, hnone]

/-- Rows are left out, never added, where only the first group is kept. -/
theorem grouped_sublist (p : Plan) (rows : List Row) : (p.grouped rows).Sublist rows := by
  unfold grouped
  split
  · split_ifs
    · cases rows with
      | nil => exact .refl _
      | cons first rest => exact List.filter_sublist
    · exact .refl _
  · exact .refl _

theorem grouped_eq_self_iff {rows : List Row} :
    p.grouped rows = rows ↔ (p.grouped rows).length = rows.length :=
  ⟨congrArg _, (p.grouped_sublist rows).eq_of_length⟩

/-- A row beyond the limit takes the place of a counter. -/
theorem remoteWindow_of_extra {σ : Type} {t : Transport σ} {s : σ} (first : Fetched)
    (rows : List Row) (hextra : d.readsExtraRow p.options p.query.limit = true) :
    p.remoteWindow d t first rows s = (.ok (if p.query.limit < rows.length then
        { rows := rows.take p.query.limit.toNat, hasMore := true }
      else { rows := rows, total := some (p.query.offset + rows.length) }), s) := by
  unfold remoteWindow
  simp only [hextra, if_true]
  split_ifs <;> rfl

/-- Without such a row, the total is what the service tells. -/
theorem remoteWindow_of_told {σ : Type} {t : Transport σ} {s s' : σ} (first : Fetched)
    (rows : List Row) (hextra : d.readsExtraRow p.options p.query.limit = false)
    {asked : Option Int} (hask : p.askCount d t first.request s = (.ok asked, s')) :
    ∃ s'', p.remoteWindow d t first rows s =
      (.ok { rows := rows, total := p.query.toldCount first.count asked,
             hasMore := (p.query.toldCount first.count asked).any fun n =>
               p.query.offset + rows.length < n }, s'') := by
  unfold remoteWindow Query.toldCount
  simp only [hextra, Bool.false_eq_true, if_false]
  rcases hcount : first.count with _ | n
  · by_cases hw : 0 < p.query.limit ∨ 0 < p.query.offset
    · have hwindow : (decide (0 < p.query.limit) || decide (0 < p.query.offset)) = true := by
        simpa using hw
      simp only [Option.isNone_none, hwindow, Bool.and_self, if_true, hw, Option.none_or]
      rw [Exchange.bind_of_ok _ hask]
      exact ⟨s', by cases asked <;> rfl⟩
    · have hwindow : (decide (0 < p.query.limit) || decide (0 < p.query.offset)) = false := by
        simpa using hw
      simp only [Option.isNone_none, hwindow, Bool.and_false, Bool.false_eq_true, if_false, hw,
        Option.none_or]
      exact ⟨s, rfl⟩
  · exact ⟨s, rfl⟩

end Plan

theorem length_applyWindow (offset limit : Int) (rows : List Row) :
    (applyWindow offset limit rows).length = if 0 < limit
      then min limit.toNat (rows.length - offset.toNat) else rows.length - offset.toNat := by
  unfold applyWindow
  split_ifs <;> simp

/-- Whether there are rows behind the window of a query. -/
def Query.EndsBefore (q : Query) (matching : List Row) : Prop :=
  0 < q.limit ∧ q.offset + q.limit < matching.length

instance (q : Query) (matching : List Row) : Decidable (q.EndsBefore matching) :=
  inferInstanceAs (Decidable (_ ∧ _))

namespace Plan

variable {σ : Type} {d : Dialect} {q : Query} {p : Plan} {t : Transport σ} {s s' : σ}
  {first : Fetched} {matching : List Row} {asked : Option Int}

/-- What becomes of a window of the rows `matching` that is as long as it was asked for. -/
theorem exists_remoteWindow_of_matching (hoffset : 0 ≤ p.query.offset)
    (hlimit : 0 ≤ p.query.limit) (hcount : d.readsExtraRow p.options p.query.limit = false →
      ∀ n ∈ p.query.toldCount first.count asked, n = matching.length)
    (hrows : first.rows = applyWindow p.query.offset
      (if d.readsExtraRow p.options p.query.limit then p.query.limit + 1 else p.query.limit)
      matching)
    (hask : p.askCount d t first.request s = (.ok asked, s')) :
    ∃ window s'', p.remoteWindow d t first first.rows s = (.ok window, s'') ∧
      window.rows = applyWindow p.query.offset p.query.limit matching ∧
      (window.hasMore = true ↔ p.query.EndsBefore matching ∧
        (d.readsExtraRow p.options p.query.limit = true ∨
          p.query.toldCount first.count asked ≠ none)) ∧
      window.total = if d.readsExtraRow p.options p.query.limit then
          if p.query.EndsBefore matching then none else some (p.query.offset + window.rows.length)
        else p.query.toldCount first.count asked := by
  have hlength := length_applyWindow p.query.offset p.query.limit matching
  cases hextra : d.readsExtraRow p.options p.query.limit with
  | true =>
    have hpos := Dialect.limit_pos_of_readsExtraRow hextra
    rw [hextra, if_pos rfl] at hrows
    have hmore : p.query.limit < first.rows.length ↔ p.query.EndsBefore matching := by
      rw [hrows, length_applyWindow, Query.EndsBefore]
      split_ifs <;> omega
    have hcut := applyWindow_extra p.query.offset hpos matching
    rw [← hrows] at hcut
    refine ⟨_, s, remoteWindow_of_extra first first.rows hextra, ?_⟩
    by_cases hm : p.query.EndsBefore matching
    · rw [if_pos (hmore.2 hm)] at hcut ⊢
      simp [hcut, hm]
    · rw [if_neg (hmore.not.2 hm)] at hcut ⊢
      simp [hcut, hm]
  | false =>
    rw [hextra, if_neg Bool.false_ne_true] at hrows
    obtain ⟨s'', hwindow⟩ := remoteWindow_of_told first first.rows hextra hask
    refine ⟨_, s'', hwindow, hrows, ?_, by simp⟩
    rcases htold : p.query.toldCount first.count asked with _ | n
    · simp
    · have hn : n = matching.length := hcount hextra n htold
      simp only [hrows, hlength, Option.any_some, decide_eq_true_eq, Query.EndsBefore, hn]
      split_ifs <;> simp <;> omega

theorem hasMore_closeWindow (r : ReadResult) : (p.closeWindow r).hasMore = r.hasMore := by
  unfold closeWindow
  split_ifs <;> rfl

theorem total_closeWindow (r : ReadResult) :
    (p.closeWindow r).total = if r.hasMore then r.total else r.total.or
      (if p.query.limit = 0 ∨ r.rows.length < p.query.limit then
        some (p.query.offset + r.rows.length) else none) := by
  unfold closeWindow
  rcases r with ⟨rows, _ | n, _ | _⟩ <;> simp
  split_ifs <;> rfl

/-- A window that shows no more rows behind it is closed with a total of its own, which makes a
difference only where no counter told one and no extra row was asked for. -/
theorem closed_total {extra more : Bool} {ends : Prop} [Decidable ends]
    {told short : Option Int} {n : Int}
    (hmore : more = true ↔ ends ∧ (extra = true ∨ told ≠ none)) :
    (if more then if extra then if ends then none else some n else told
      else (if extra then if ends then none else some n else told).or short) =
        if extra then if ends then none else some n else told.or short := by
  cases extra with
  | true =>
    by_cases hends : ends
    · simp [hmore.2 ⟨hends, .inl rfl⟩, hends]
    · have hnone : more = false := Bool.eq_false_iff.2 fun h => hends (hmore.1 h).1
      simp [hnone, hends]
  | false =>
    cases told with
    | none =>
      have hnone : more = false := by
        rw [Bool.eq_false_iff]
        intro h
        simpa using (hmore.1 h).2
      simp [hnone]
    | some total => cases more <;> simp

end Plan

variable {σ : Type} {d : Dialect} {q : Query} {p : Plan} {t : Transport σ} {s : σ}
  {request : Request} {matching : List Row} {inline asked : Option Int}

/-- A read whose window the service cuts gives the rows of the window. It shows that there are more
behind it by a counter or by a row beyond the limit, and their number by either or by a window that
is shorter than the limit in the end. -/
theorem read_of_countedPage (h : CountedPage d q p t s request matching inline asked) :
    ∃ result s', q.read d t s = (.ok result, s') ∧
      result.rows = p.grouped (applyWindow q.offset q.limit matching) ∧
      (result.hasMore = true ↔ q.EndsBefore matching ∧
        (d.readsExtraRow q.entity.options q.limit = true ∨ q.toldCount inline asked ≠ none)) ∧
      result.total = if d.readsExtraRow q.entity.options q.limit then
          if q.EndsBefore matching then none
          else some (q.offset + (applyWindow q.offset q.limit matching).length)
        else (q.toldCount inline asked).or
          (if q.limit = 0 ∨ result.rows.length < q.limit then
            some (q.offset + result.rows.length) else none) := by
  obtain ⟨hoffset, hlimit, hnames, hp, hremotely, hr, ⟨offset, limit, answer, body, s', hasks,
    hsend, hbody, hrows, hcount, htells⟩, hinline, hasked⟩ := h
  obtain ⟨ho, hl⟩ := Plan.query_window_eq hp
  have hopts := Plan.options_eq hp
  have htold : p.query.toldCount inline asked = q.toldCount inline asked := by
    simp only [Query.toldCount, ho, hl]
  have hends : p.query.EndsBefore matching ↔ q.EndsBefore matching := by
    simp only [Query.EndsBefore, ho, hl]
  rw [← ho] at hoffset
  rw [← hl] at hlimit
  rw [← hopts] at hnames
  rw [Plan.offset_eq_of_asksWindow hnames hoffset hremotely hr hasks,
    Plan.limit_eq_of_asksWindow hlimit hremotely hr hasks] at hrows
  set received := applyWindow p.query.offset
    (if d.readsExtraRow p.options p.query.limit then p.query.limit + 1 else p.query.limit)
    matching with hreceived
  have hright : d.readsExtraRow p.options p.query.limit = false →
      ∀ n ∈ p.query.toldCount inline asked, n = matching.length :=
    fun _ n hn => Query.eq_of_mem_toldCount hinline hasked hn
  have hfetch := Plan.fetchAll_of_answer hr hsend hbody hrows hcount
  obtain ⟨s₁, hask⟩ := Plan.askCount_of_tellsCount htells
  obtain ⟨window, s₂, hwindow, hwindowRows, hmore, htotal⟩ :=
    Plan.exists_remoteWindow_of_matching hoffset hlimit hright
      (show (⟨request, received, inline⟩ : Plan.Fetched).rows = _ from hreceived) hask
  refine ⟨p.closeWindow { window with rows := p.grouped window.rows }, s₂, ?_, ?_, ?_, ?_⟩
  · rw [Query.read, Exchange.lift_bind_of_ok _ hp, Plan.run_of_window hremotely hfetch hwindow]
  · rw [Plan.rows_closeWindow, hwindowRows, ho, hl]
  · rw [Plan.hasMore_closeWindow, hmore, hends, htold, hopts, hl]
  · rw [hopts, hl, htold] at htotal hmore
    rw [Plan.total_closeWindow, Plan.rows_closeWindow, ho, hl, htotal, hwindowRows, ho, hl]
    simp only [hends] at hmore ⊢
    exact Plan.closed_total hmore

/-- The total of a read whose window the service cuts is missing or right exactly where a counter
tells it, or where the window starts within the rows or at their end and no row of it is left out
after reading; a row beyond the limit is read before rows are left out. -/
theorem total_right_iff (h : CountedPage d q p t s request matching inline asked) :
    ∃ result s', q.read d t s = (.ok result, s') ∧
      ((result.total = none ∨ result.total = some (matching.length : Int)) ↔
        (d.readsExtraRow q.entity.options q.limit = false ∧ q.toldCount inline asked ≠ none) ∨
          q.offset ≤ matching.length ∧
            (d.readsExtraRow q.entity.options q.limit = true ∨
              p.grouped (applyWindow q.offset q.limit matching) =
                applyWindow q.offset q.limit matching)) := by
  obtain ⟨result, s', hread, hrows, -, htotal⟩ := read_of_countedPage h
  refine ⟨result, s', hread, ?_⟩
  have hoffset := h.offset_nonneg
  have hlimit := h.limit_nonneg
  have hlength := length_applyWindow q.offset q.limit matching
  have hle := (p.grouped_sublist (applyWindow q.offset q.limit matching)).length_le
  rw [htotal, hrows]
  cases hextra : d.readsExtraRow q.entity.options q.limit with
  | true =>
    have hpos := Dialect.limit_pos_of_readsExtraRow hextra
    rw [if_pos hpos] at hlength
    by_cases hmore : q.EndsBefore matching
    · have hbehind := hmore.2
      simp [hmore]
      omega
    · have hend : ¬q.offset + q.limit < matching.length := fun hlt => hmore ⟨hpos, hlt⟩
      simp [hmore]
      omega
  | false =>
    rcases htold : q.toldCount inline asked with _ | n
    · simp only [Bool.false_eq_true, if_false, Option.none_or, Plan.grouped_eq_self_iff]
      split_ifs at hlength ⊢ with hpos hshort <;> simp <;> omega
    · have hn := Query.eq_of_mem_toldCount h.inline_eq h.asked_eq htold
      simp [hn]

/-- A read whose window the service cuts reports more rows unless there are none, exactly where a
counter or a row beyond the limit tells it or the window reaches the end, and no row of the last
window is left out after reading. -/
theorem noMore_right_iff (h : CountedPage d q p t s request matching inline asked)
    (hlimit : 0 < q.limit) :
    ∃ result s', q.read d t s = (.ok result, s') ∧
      ((result.hasMore = false → (matching.length : Int) ≤ q.offset + result.rows.length) ↔
        (d.readsExtraRow q.entity.options q.limit = true ∨ q.toldCount inline asked ≠ none ∨
            matching.length ≤ q.offset + q.limit) ∧
          (matching.length ≤ q.offset + q.limit →
            p.grouped (applyWindow q.offset q.limit matching) =
              applyWindow q.offset q.limit matching)) := by
  obtain ⟨result, s', hread, hrows, hmore, -⟩ := read_of_countedPage h
  refine ⟨result, s', hread, ?_⟩
  have hoffset := h.offset_nonneg
  have hlength := length_applyWindow q.offset q.limit matching
  rw [if_pos hlimit] at hlength
  have hle := (p.grouped_sublist (applyWindow q.offset q.limit matching)).length_le
  have hends : q.EndsBefore matching ↔ q.offset + q.limit < matching.length :=
    and_iff_right hlimit
  rw [← Bool.not_eq_true, hmore, hrows, hends, Plan.grouped_eq_self_iff, ← or_assoc]
  by_cases hlast : (matching.length : Int) ≤ q.offset + q.limit
  · simp only [hlast, Int.not_lt.2 hlast, false_and, not_false_eq_true, true_imp_iff, or_true,
      true_and]
    omega
  · simp only [hlast, Int.not_le.1 hlast, true_and, or_false, false_imp_iff, and_true]
    refine ⟨fun hright => by_contra fun htold => ?_, fun htold hnone => absurd htold hnone⟩
    have := hright htold
    omega

def itemsPage (options : EntityOptions) (offset limit : Int) : Query :=
  { itemsAfterFirst options with offset := offset, limit := limit }

def itemsPagePlan (options : EntityOptions) (offset limit : Int) : Plan :=
  { query := itemsPage options offset limit }

/-- A page of five items whose number the service does not tell. -/
theorem countedPage_items {options : EntityOptions} {offset limit : Int} {service : Transport Unit}
    {page : Value} (hoffset : 0 ≤ offset) (hlimit : 0 ≤ limit) (hnames : d.NamesOffset options)
    (hp : Plan.of d (itemsPage options offset limit) = .ok (itemsPagePlan options offset limit))
    (hremotely : (itemsPagePlan options offset limit).pagesRemotely d = .ok true)
    (hr : (itemsPagePlan options offset limit).readRequest? d = .ok (some request))
    (hasks : (itemsPagePlan options offset limit).AsksWindow d request offset limit)
    (hsend : service.send request () = (.ok { text := Json.write Json.compact page }, ()))
    (hbody : Body.ofResponse d { text := Json.write Json.compact page } = .ok (.data page))
    (hrows : (Body.data page).rows d (itemsPage options offset limit) false =
      .ok (applyWindow offset limit fiveItems))
    (hcount : (Body.data page).count d (itemsPage options offset limit).entity = .ok none)
    (htells : (itemsPagePlan options offset limit).TellsCount d service request () none) :
    CountedPage d (itemsPage options offset limit) (itemsPagePlan options offset limit) service ()
      request fiveItems none none where
  offset_nonneg := hoffset
  limit_nonneg := hlimit
  names := hnames
  divided := hp
  remotely := hremotely
  compiled := hr
  answered := ⟨offset, limit, _, _, (), hasks, hsend, hbody, hrows, hcount, htells⟩
  inline_eq := nofun
  asked_eq := nofun

theorem countedPage_named (ids : List Int) (offset limit : Int) (hoffset : 0 < offset)
    (hlimit : 0 < limit)
    (hr : (itemsPagePlan namedOptions offset limit).readRequest? .json =
      .ok (some (itemsRequest [("start", some (integerText offset)),
        ("limit", some (integerText limit))])))
    (hbody : Body.ofResponse .json { text := Json.write Json.compact (pageOf ids) } =
      .ok (.data (pageOf ids)))
    (hrows : (Body.data (pageOf ids)).rows .json (itemsPage namedOptions offset limit) false =
      .ok (applyWindow offset limit fiveItems)) :
    CountedPage .json (itemsPage namedOptions offset limit)
      (itemsPagePlan namedOptions offset limit) (itemService (pageOf ids)) ()
      (itemsRequest [("start", some (integerText offset)), ("limit", some (integerText limit))])
      fiveItems none none :=
  countedPage_items (by omega) (by omega) ⟨"start", by decide +kernel, nofun⟩ rfl rfl hr
    ⟨Plan.asks_of_sentTexts rfl rfl, Plan.asks_of_sentTexts rfl rfl,
      fun h => absurd h (Int.ne_of_gt hoffset), fun h => absurd h (Int.ne_of_gt hlimit)⟩ rfl hbody
    hrows rfl rfl

/-- The last page of five items is shorter than its limit and tells their number. -/
theorem total_itemService_lastPage : ∃ result s',
    (itemsPage namedOptions 4 2).read .json (itemService (pageOf [5])) () = (.ok result, s') ∧
      (result.total = none ∨ result.total = some 5) := by
  have hpage := countedPage_named [5] 4 2 (by decide) (by decide)
    (by decide +kernel) (by decide +kernel) (by decide +kernel)
  obtain ⟨result, s', hread, hiff⟩ := total_right_iff hpage
  exact ⟨result, s', hread, hiff.2 (.inr ⟨by decide, .inr rfl⟩)⟩

/-- A page from behind the last item takes its own place for the number of items. -/
theorem total_itemService_pastEnd :
    CountedPage .json (itemsPage namedOptions 100 10) (itemsPagePlan namedOptions 100 10)
      (itemService (pageOf [])) () (itemsRequest [("start", some "100"), ("limit", some "10")])
      fiveItems none none ∧
    ((itemsPage namedOptions 100 10).read .json (itemService (pageOf [])) ()).1 =
      .ok { total := some 100 } :=
  ⟨countedPage_named [] 100 10 (by decide) (by decide) (by decide +kernel) (by decide +kernel)
    (by decide +kernel), by decide +kernel⟩

/-- Behind a full page there is nothing where it is the last. -/
theorem noMore_itemService_lastPage : ∃ result s',
    (itemsPage namedOptions 3 2).read .json (itemService (pageOf [4, 5])) () = (.ok result, s') ∧
      (result.hasMore = false → 5 ≤ 3 + (result.rows.length : Int)) := by
  have hpage := countedPage_named [4, 5] 3 2 (by decide) (by decide)
    (by decide +kernel) (by decide +kernel) (by decide +kernel)
  obtain ⟨result, s', hread, hiff⟩ := noMore_right_iff hpage (by decide)
  exact ⟨result, s', hread, hiff.2 ⟨.inr (.inr (by decide)), fun _ => rfl⟩⟩

/-- A service that hands over the same page every time and does not tell the number of rows. -/
def uncountedService (page : Value) : Transport Unit where
  baseUrl := ""
  send r :=
    if r.headers = [("Accept", "text/plain")] then throw (.service ⟨500, "", "", []⟩)
    else pure { text := Json.write Json.compact page }
  freshName := pure ""

/-- A full page is reported to be the last where the number of rows stays unknown. -/
theorem noMore_uncountedService :
    CountedPage .odata4 (itemsPage {} 1 2) (itemsPagePlan {} 1 2)
      (uncountedService (.map [("value", pageOf [2, 3])])) ()
      (.withParams "GET" "items" [("$skip", some "1"), ("$top", some "2"), ("$count", some "true")]
        Dialect.odata4.readHeaders) fiveItems none none ∧
    ((itemsPage {} 1 2).read .odata4 (uncountedService (.map [("value", pageOf [2, 3])])) ()).1 =
      .ok { rows := itemRows [2, 3] } := by
  refine ⟨countedPage_items (by decide) (by decide) ⟨"$skip", by decide +kernel, nofun⟩ rfl rfl
    (by decide +kernel) ⟨Plan.asks_of_sentTexts rfl rfl, Plan.asks_of_sentTexts rfl rfl, nofun,
      nofun⟩ rfl (by decide +kernel) (by decide +kernel) rfl ?_, by decide +kernel⟩
  exact ⟨(), .inl ⟨rfl, _, rfl⟩⟩

end EntityQuery
