import EntityQuery.Proofs.PlainRead

/-!
# Pages that the service cuts

Where the service cuts the window, the rows of a read are a window of the rows that the service was
asked for, of the limit of the query and at the offset that the request carries
(`read_of_sentWindow`). A name for the limit is enough for the service to cut the window, while a
request carries the offset of the query only where the offset has a name of its own
(`pageRows_right_iff`).
-/

namespace EntityQuery

open Number

theorem nonEmpty?_eq_some {s : Option String} {key : String} (h : nonEmpty? s = some key) :
    s = some key := (Option.filter_eq_some_iff.1 h).1

theorem nonEmpty?_of_eq {s : Option String} {key : String} (h : nonEmpty? s = some key) :
    nonEmpty? (some key) = some key := nonEmpty?_eq_some h ▸ h

namespace Dialect

/-- The offset that a window is asked for with: none without a name for it, and where a query
document has one name for offset and limit, the limit that takes its place. -/
def sentOffset (d : Dialect) (o : EntityOptions) (offset limit : Int) : Int :=
  match nonEmpty? (d.offsetParam? o) with
  | none => 0
  | some name => if d = .graphql ∧ d.limitParam? o = some name then limit + 1 else offset

/-- Whether a window can be asked for with its offset: it has a name, and in a query document not
that of the limit. -/
def NamesOffset (d : Dialect) (o : EntityOptions) : Prop :=
  ∃ name, nonEmpty? (d.offsetParam? o) = some name ∧
    ¬(d = .graphql ∧ d.limitParam? o = some name)

theorem NamesOffset.sentOffset_eq {d : Dialect} {o : EntityOptions} (h : d.NamesOffset o)
    (offset limit : Int) : d.sentOffset o offset limit = offset := by
  obtain ⟨name, hname, hown⟩ := h
  rw [sentOffset, hname]
  exact if_neg hown

theorem sentOffset_nonneg (d : Dialect) (o : EntityOptions) {offset limit : Int}
    (hoffset : 0 ≤ offset) (hlimit : 0 ≤ limit) : 0 ≤ d.sentOffset o offset limit := by
  unfold sentOffset
  split
  · exact Int.le_refl 0
  · split_ifs
    · omega
    · exact hoffset

/-- The limit that a window is asked for with. -/
def sentLimit (d : Dialect) (limit : Int) : Int := if d = .graphql then limit + 1 else limit

/-- Wherever the service cuts the window, the limit has a name. -/
theorem exists_limitName {d : Dialect} {o : EntityOptions} (h : d.pagesRemotely o = true) :
    ∃ name, nonEmpty? (d.limitParam? o) = some name := by
  cases d with
  | graphql => exact Option.isSome_iff_exists.1 (Bool.and_eq_true_iff.1 h).2
  | json | xml | html =>
    obtain ⟨name, hname⟩ := Option.isSome_iff_exists.1 h
    exact ⟨name, by rw [hname]; exact nonEmpty?_of_eq hname⟩
  | odata2 | odata4 | odata =>
    cases hname : nonEmpty? o.requestLimitParameter with
    | none => exact ⟨"$top", by rw [limitParam?, hname]; rfl⟩
    | some name => exact ⟨name, by rw [limitParam?, hname]; exact nonEmpty?_of_eq hname⟩

end Dialect

/-- Windows of rows of which none occurs twice are the same only if they start at one place or have
no rows. -/
theorem applyWindow_eq_iff {rows : List Row} (h : rows.Nodup) {offset offset' limit : Int}
    (hoffset : 0 ≤ offset) (hoffset' : 0 ≤ offset') (hlimit : 0 < limit) :
    applyWindow offset limit rows = applyWindow offset' limit rows ↔
      offset = offset' ∨ rows.length ≤ offset ∧ rows.length ≤ offset' := by
  have hfirst (n : Int) : (applyWindow n limit rows).head? = rows[n.toNat]? := by
    rw [applyWindow, if_pos hlimit, List.head?_take, if_neg (by omega), List.head?_drop]
  have hnone (n : Int) (hn : rows.length ≤ n) : applyWindow n limit rows = [] := by
    rw [← List.head?_eq_none_iff, hfirst, List.getElem?_eq_none_iff]
    omega
  constructor
  · intro heq
    have hrow : rows[offset.toNat]? = rows[offset'.toNat]? := by rw [← hfirst, heq, hfirst]
    by_cases hwithin : offset.toNat < rows.length
    · left
      have hplace := (List.getElem?_inj hwithin h).1 hrow
      omega
    · right
      rw [List.getElem?_eq_none (Nat.not_lt.1 hwithin), eq_comm, List.getElem?_eq_none_iff] at hrow
      omega
  · rintro (rfl | ⟨hbehind, hbehind'⟩)
    · rfl
    · rw [hnone offset hbehind, hnone offset' hbehind']

namespace Plan

/-- The texts that a read request carries under a name: those of its parameters, or that of an
argument of its document. -/
def sentTexts (p : Plan) (d : Dialect) (r : Request) (name : String) : List String :=
  match d with
  | .graphql =>
    match p.documentArguments d with
    | .ok arguments => ((arguments.get? name).map Graphql.literal).toList
    | .error _ => []
  | _ => (r.params.filter fun e => e.1 == name).filterMap Prod.snd

/-- Whether a request asks for a number under a name: it carries the number and nothing else under
it, or nothing at all, which counts as zero. -/
def Asks (p : Plan) (d : Dialect) (r : Request) (name : Option String) (n : Int) : Prop :=
  match nonEmpty? name with
  | none => n = 0
  | some name => p.sentTexts d r name = [] ∧ n = 0 ∨ p.sentTexts d r name = [integerText n]

/-- What is done with the rows of a page after reading where no filter and no sorter is left. -/
def grouped (p : Plan) (rows : List Row) : List Row :=
  match nonEmpty? p.options.responseGroupByAttributeAlias with
  | some name => if p.options.responseGroupUseOnlyFirst then keepFirstGroup name rows else rows
  | none => rows

theorem grouped_of_keepsGroups {p : Plan} (h : keepsGroups p.options) (rows : List Row) :
    p.grouped rows = rows := by
  unfold grouped
  rcases h with hfirst | hnone
  · rw [hfirst]
    split <;> rfl
  · rw [hnone]

end Plan

/-- A read whose window the service cuts out of the rows `matching`, by the offset and the limit
that the request asks for. A counter beside the rows can be read, and so can the answer to a request
for the number of rows, unless the service refuses to give it. -/
structure RemotePage {σ : Type} (d : Dialect) (q : Query) (p : Plan) (t : Transport σ) (s : σ)
    (request : Request) (matching : List Row) (offset limit : Int) : Prop where
  offset_pos : 0 < q.offset
  limit_pos : 0 < q.limit
  divided : Plan.of d q = .ok p
  remotely : p.pagesRemotely d = .ok true
  compiled : p.readRequest? d = .ok (some request)
  asksOffset : p.Asks d request (d.offsetParam? p.options) offset
  asksLimit : p.Asks d request (d.limitParam? p.options) limit
  answered : ∃ answer body s', t.send request s = (.ok answer, s') ∧
    Body.ofResponse d answer = .ok body ∧
    body.rows d p.query false = .ok (applyWindow offset limit matching) ∧
    (∃ count, body.count d p.entity = .ok count) ∧
    ∀ asked, p.countRequest? d request = some asked → ∃ s'',
      (∃ fault, t.send asked s' = (.error (.service fault), s'')) ∨
      ∃ counted n, t.send asked s' = (.ok counted, s'') ∧
        parseCount (.str counted.text) = .ok n

namespace Plan

variable {d : Dialect} {q : Query} {p : Plan} {request : Request}

/-- A text that is carried under a name is the number that is asked for. -/
theorem eq_of_asks {name : Option String} {n m : Int} (h : p.Asks d request name n) {key : String}
    (hname : nonEmpty? name = some key) (hm : integerText m ∈ p.sentTexts d request key) :
    n = m := by
  rw [Asks, hname] at h
  rcases h with ⟨hnil, -⟩ | hone
  · rw [hnil] at hm
    cases hm
  · rw [hone, List.mem_singleton] at hm
    exact (integerText_injective hm).symm

theorem asks_of_sentTexts {name : Option String} {key : String} {n : Int}
    (hname : nonEmpty? name = some key) (h : p.sentTexts d request key = [integerText n]) :
    p.Asks d request name n := by
  rw [Asks, hname]
  exact .inr h

theorem mem_sentTexts {key text : String} (hd : d ≠ .graphql)
    (h : (key, some text) ∈ request.params) : text ∈ p.sentTexts d request key := by
  have hsent : p.sentTexts d request key =
      (request.params.filter fun e => e.1 == key).filterMap Prod.snd := by
    cases d <;> first | rfl | exact absurd rfl hd
  rw [hsent, List.mem_filterMap]
  exact ⟨(key, some text), List.mem_filter.2 ⟨h, beq_self_eq_true key⟩, rfl⟩

/-- The parameters of the window are among those of the request. -/
theorem mem_params_of_mem_windowParams (hd : d ≠ .graphql)
    (hremotely : p.pagesRemotely d = .ok true) (hr : p.readRequest? d = .ok (some request))
    {e : String × Option String}
    (he : e ∈ d.windowParams p.options p.query.offset p.query.limit) : e ∈ request.params := by
  obtain ⟨-, address, filters, remotely, projection, -, -, -, hwindow, -, hparams⟩ :=
    exists_params_of_readRequest? hd hr
  cases hremotely.symm.trans hwindow
  rw [hparams]
  refine List.mem_append_right _ (List.mem_append_left _ (List.mem_append_left _ ?_))
  exact List.mem_append_right _ he

theorem pagesRemotely_eq_true (h : p.pagesRemotely d = .ok true) :
    d.pagesRemotely p.options = true ∧ p.localFilters.isEmpty = true ∧ p.localSorters = [] ∧
      p.itemCondition? = .ok none := by
  unfold pagesRemotely at h
  split at h
  · cases h
  split at h
  · cases h
  rename_i hdialect hlocal
  obtain ⟨item, hitem, h⟩ := Except.bind_eq_ok_iff.1 h
  have hnone : item = none := by
    cases item with
    | none => rfl
    | some l => cases h
  simp only [Bool.not_eq_true', Bool.not_eq_false, Bool.or_eq_true, not_or,
    List.isEmpty_iff] at hdialect hlocal
  exact ⟨hdialect, hlocal.1, hlocal.2, hnone ▸ hitem⟩

/-- What a query document carries for a window. -/
theorem exists_documentArguments (hremotely : p.pagesRemotely .graphql = .ok true)
    (hlimit : 0 < p.query.limit) {limitName : String}
    (hname : Dialect.graphql.limitParam? p.options = some limitName) :
    ∃ arguments, p.documentArguments .graphql = .ok arguments ∧
      arguments.get? limitName = some (.int (p.query.limit + 1)) ∧
      ∀ name, nonEmpty? (Dialect.graphql.offsetParam? p.options) = some name →
        name ≠ limitName → 0 < p.query.offset →
          arguments.get? name = some (.int p.query.offset) := by
  rw [documentArguments, hremotely]
  refine ⟨_, rfl, ?_, ?_⟩
  · rw [Dialect.windowArguments, if_pos hlimit, hname, List.foldl_append]
    exact (Row.get?_put ..).trans (if_pos rfl)
  · intro name hoffset hne hpos
    simp only [Dialect.windowArguments, if_pos hlimit, hname, hoffset, if_pos hpos,
      List.foldl_append, List.foldl_cons, List.foldl_nil, Row.get?_put, if_neg hne, if_true]

/-- The limit that a request asks for is that of the query, one row longer in a document. -/
theorem limit_eq_of_asks {limit : Int} (hlimit : 0 < p.query.limit)
    (hremotely : p.pagesRemotely d = .ok true) (hr : p.readRequest? d = .ok (some request))
    (h : p.Asks d request (d.limitParam? p.options) limit) : limit = d.sentLimit p.query.limit := by
  obtain ⟨hdialect, -⟩ := pagesRemotely_eq_true hremotely
  obtain ⟨name, hname⟩ := Dialect.exists_limitName hdialect
  refine eq_of_asks h hname ?_
  by_cases hd : d = .graphql
  · subst hd
    obtain ⟨arguments, hdoc, hget, -⟩ :=
      exists_documentArguments hremotely hlimit (nonEmpty?_eq_some hname)
    simp only [sentTexts, hdoc, hget]
    exact List.mem_singleton_self _
  · rw [Dialect.sentLimit, if_neg hd]
    refine mem_sentTexts hd (mem_params_of_mem_windowParams hd hremotely hr ?_)
    rw [Dialect.windowParams, Dialect.numberParam, Dialect.numberParam, hname]
    simp only [if_pos hlimit]
    exact List.mem_append_left _ (List.mem_append_right _ (List.mem_singleton_self _))

/-- The offset that a request asks for. -/
theorem offset_eq_of_asks {offset : Int} (hoffset : 0 < p.query.offset)
    (hlimit : 0 < p.query.limit) (hremotely : p.pagesRemotely d = .ok true)
    (hr : p.readRequest? d = .ok (some request))
    (h : p.Asks d request (d.offsetParam? p.options) offset) :
    offset = d.sentOffset p.options p.query.offset p.query.limit := by
  unfold Dialect.sentOffset
  cases hname : nonEmpty? (d.offsetParam? p.options) with
  | none =>
    rw [Asks, hname] at h
    exact h
  | some name =>
    refine eq_of_asks h hname ?_
    by_cases hd : d = .graphql
    · subst hd
      obtain ⟨hdialect, -⟩ := pagesRemotely_eq_true hremotely
      obtain ⟨limitName, hl⟩ := Dialect.exists_limitName hdialect
      have hlimitName := nonEmpty?_eq_some hl
      obtain ⟨arguments, hdoc, hgetLimit, hgetOffset⟩ :=
        exists_documentArguments hremotely hlimit hlimitName
      simp only [sentTexts, hdoc, hlimitName, Option.some.injEq, true_and]
      by_cases hsame : limitName = name
      · rw [if_pos hsame, ← hsame, hgetLimit]
        exact List.mem_singleton_self _
      · rw [if_neg hsame, hgetOffset name hname (Ne.symm hsame) hoffset]
        exact List.mem_singleton_self _
    · simp only [hd, false_and, if_false]
      refine mem_sentTexts hd (mem_params_of_mem_windowParams hd hremotely hr ?_)
      rw [Dialect.windowParams, Dialect.numberParam, hname]
      simp only [if_pos hoffset]
      exact List.mem_append_left _ (List.mem_append_left _ (List.mem_singleton_self _))

/-- One row more than the limit is read, and left out again. -/
theorem applyWindow_extra (offset : Int) {limit : Int} (h : 0 < limit) (rows : List Row) :
    (if limit < (applyWindow offset (limit + 1) rows).length then
        (applyWindow offset (limit + 1) rows).take limit.toNat
      else applyWindow offset (limit + 1) rows) = applyWindow offset limit rows := by
  have hsucc : (limit + 1).toNat = limit.toNat + 1 := by omega
  simp only [applyWindow, if_pos h, if_pos (show 0 < limit + 1 by omega), hsucc]
  generalize rows.drop offset.toNat = rest
  split
  · rw [List.take_take, Nat.min_eq_left (Nat.le_succ _)]
  · rename_i hshort
    rw [List.length_take] at hshort
    have hlength : rest.length ≤ limit.toNat := by omega
    rw [List.take_of_length_le hlength, List.take_of_length_le (by omega)]

variable {σ : Type} {t : Transport σ} {s : σ}

/-- What the service tells when it is asked for the number of rows by a further request: nothing
where there is no such request, where it refuses, or where its answer is no number. -/
def TellsCount (p : Plan) (d : Dialect) (t : Transport σ) (r : Request) (s : σ)
    (told : Option Int) : Prop :=
  match p.countRequest? d r with
  | none => told = none
  | some asked => ∃ s', (told = none ∧ ∃ fault, t.send asked s = (.error (.service fault), s')) ∨
      ∃ counted, t.send asked s = (.ok counted, s') ∧ parseCount (.str counted.text) = .ok told

theorem askCount_of_tellsCount {told : Option Int} (h : p.TellsCount d t request s told) :
    ∃ s', p.askCount d t request s = (.ok told, s') := by
  unfold TellsCount at h
  rw [askCount]
  cases hasked : p.countRequest? d request with
  | none =>
    rw [hasked] at h
    subst h
    exact ⟨s, rfl⟩
  | some asked =>
    rw [hasked] at h
    obtain ⟨s', ⟨rfl, fault, hsend⟩ | ⟨counted, hsend, hparse⟩⟩ := h
    · have hfailed := Exchange.map_of_error some hsend
      exact ⟨s', (Exchange.bind_of_eq _ (Exchange.tryCatch_of_error _ hfailed)).trans rfl⟩
    · refine ⟨s', (Exchange.bind_of_ok _
        (Exchange.tryCatch_of_ok _ (Exchange.map_of_ok some hsend))).trans ?_⟩
      simp only [hparse]
      rfl

/-- A request for the number of rows ends well when the service answers or refuses. -/
theorem exists_askCount (h : ∀ asked, p.countRequest? d request = some asked → ∃ s',
    (∃ fault, t.send asked s = (.error (.service fault), s')) ∨
      ∃ counted n, t.send asked s = (.ok counted, s') ∧ parseCount (.str counted.text) = .ok n) :
    ∃ n s', p.askCount d t request s = (.ok n, s') := by
  have htells : ∃ told, p.TellsCount d t request s told := by
    unfold TellsCount
    cases hasked : p.countRequest? d request with
    | none => exact ⟨none, rfl⟩
    | some asked =>
      obtain ⟨s', ⟨fault, hsend⟩ | ⟨counted, n, hsend, hparse⟩⟩ := h asked hasked
      · exact ⟨none, s', .inl ⟨rfl, fault, hsend⟩⟩
      · exact ⟨n, s', .inr ⟨counted, hsend, hparse⟩⟩
  obtain ⟨told, htold⟩ := htells
  exact ⟨told, askCount_of_tellsCount htold⟩

/-- The rows of a window that the service cut are those that it returned, without the extra one. -/
theorem exists_remoteWindow (first : Fetched) {n : Option Int} {s' : σ} (rows : List Row)
    (hask : p.askCount d t first.request s = (.ok n, s')) :
    ∃ window s'', p.remoteWindow d t first rows s = (.ok window, s'') ∧
      window.rows = if d.readsExtraRow p.options p.query.limit ∧ p.query.limit < rows.length then
        rows.take p.query.limit.toNat else rows := by
  rw [remoteWindow]
  split
  · rename_i hextra
    split
    · rename_i hmore
      exact ⟨_, s, rfl, (if_pos ⟨hextra, hmore⟩).symm⟩
    · rename_i hmore
      exact ⟨_, s, rfl, (if_neg fun h => hmore h.2).symm⟩
  · rename_i hextra
    split
    · rw [Exchange.bind_of_ok _ hask]
      exact ⟨_, s', rfl, (if_neg fun h => hextra h.1).symm⟩
    · exact ⟨_, s, rfl, (if_neg fun h => hextra h.1).symm⟩

theorem rows_closeWindow (r : ReadResult) : (p.closeWindow r).rows = r.rows := by
  rw [closeWindow]
  split <;> rfl

/-- Where no filter and no sorter is left, all that is done to rows is to keep the first group. -/
theorem refine_eq (hfilters : p.localFilters.isEmpty = true) (hsorters : p.localSorters = [])
    (rows : List Row) : p.refine rows = .ok (p.grouped rows) := by
  unfold refine
  dsimp only
  rw [applyFilters_of_isEmpty hfilters, hsorters]
  exact sortRows_nil _

/-- A run whose window the service cuts makes its result of the window and nothing else. -/
theorem run_of_window (hremotely : p.pagesRemotely d = .ok true) {first : Fetched} {s' s'' : σ}
    (hfetch : fetchAll d t false [p] s = (.ok [first], s')) {window : ReadResult}
    (hwindow : p.remoteWindow d t first first.rows s' = (.ok window, s'')) :
    p.run d t s = (.ok (p.closeWindow { window with rows := p.grouped window.rows }), s'') := by
  obtain ⟨-, hfilters, hsorters, hitem⟩ := pagesRemotely_eq_true hremotely
  rw [run_of_fetched hitem hremotely hfetch, if_pos rfl, Exchange.bind_of_ok _ hwindow,
    Exchange.lift_bind_of_ok _ (refine_eq hfilters hsorters _)]
  rfl

end Plan

variable {σ : Type} {d : Dialect} {q : Query} {p : Plan} {t : Transport σ} {s : σ}
  {request : Request} {matching : List Row} {offset limit : Int}

/-- A read whose window the service cuts ends well, and its rows are those of the window at the
offset that is sent. -/
theorem read_of_sentWindow (h : RemotePage d q p t s request matching offset limit) :
    ∃ result s', q.read d t s = (.ok result, s') ∧
      result.rows = p.grouped
        (applyWindow (d.sentOffset q.entity.options q.offset q.limit) q.limit matching) := by
  obtain ⟨hoffset, hlimit, hp, hremotely, hr, hasksOffset, hasksLimit, answer, body, s', hsend,
    hbody, hrows, ⟨count, hcount⟩, hcounted⟩ := h
  obtain ⟨ho, hl⟩ := Plan.query_window_eq hp
  obtain ⟨hdialect, -⟩ := Plan.pagesRemotely_eq_true hremotely
  have hsentOffset := Plan.offset_eq_of_asks (ho ▸ hoffset) (hl ▸ hlimit) hremotely hr hasksOffset
  have hsentLimit := Plan.limit_eq_of_asks (hl ▸ hlimit) hremotely hr hasksLimit
  rw [Plan.options_eq hp, ho, hl] at hsentOffset
  rw [hl] at hsentLimit
  subst hsentOffset hsentLimit
  have hfetch := Plan.fetchAll_of_answer hr hsend hbody hrows hcount
  obtain ⟨n, s₁, hask⟩ := Plan.exists_askCount hcounted
  obtain ⟨window, s₂, hwindow, hwindowRows⟩ :=
    Plan.exists_remoteWindow ⟨request, _, count⟩ _ hask
  rw [Query.read, Exchange.lift_bind_of_ok _ hp, Plan.run_of_window hremotely hfetch hwindow]
  refine ⟨_, s₂, rfl, ?_⟩
  rw [Plan.rows_closeWindow]
  refine congrArg p.grouped (hwindowRows.trans ?_)
  rw [Dialect.readsExtraRow, hl, Dialect.sentLimit]
  by_cases hd : d = .graphql
  · simp only [hd, if_true, decide_true, Bool.true_and, hlimit, hd ▸ hdialect, true_and]
    exact Plan.applyWindow_extra _ hlimit _
  · simp only [hd, if_false, decide_false, Bool.false_and, Bool.false_eq_true, false_and]

/-- The rows of a read whose window the service cuts are those of the window of the query where the
offset has a name of its own, apart from all groups but the first where no other is kept. Where no
row occurs twice, they are so exactly where the offset that is sent is that of the query, or both
are behind the last row. -/
theorem pageRows_right_iff (h : RemotePage d q p t s request matching offset limit) :
    ∃ result s', q.read d t s = (.ok result, s') ∧
      (d.NamesOffset q.entity.options →
        result.rows = p.grouped (applyWindow q.offset q.limit matching)) ∧
      (Plan.keepsGroups q.entity.options → matching.Nodup →
        (result.rows = applyWindow q.offset q.limit matching ↔
          d.sentOffset q.entity.options q.offset q.limit = q.offset ∨
            matching.length ≤ q.offset ∧
              matching.length ≤ d.sentOffset q.entity.options q.offset q.limit)) := by
  obtain ⟨result, s', hread, hrows⟩ := read_of_sentWindow h
  refine ⟨result, s', hread, fun hnames => ?_, fun hgroups hnodup => ?_⟩
  · rw [hrows, hnames.sentOffset_eq]
  · rw [← Plan.options_eq h.divided] at hgroups
    have hoffset := Int.le_of_lt h.offset_pos
    have hsent := d.sentOffset_nonneg q.entity.options hoffset (Int.le_of_lt h.limit_pos)
    rw [hrows, Plan.grouped_of_keepsGroups hgroups,
      applyWindow_eq_iff hnodup hsent hoffset h.limit_pos, and_comm]

def itemsAfterFirst (options : EntityOptions) : Query where
  entity :=
    { name := "items", dataAddress := "items", attributes := [{ name := "id", dataAddress := "id" }]
      options := options }
  offset := 1
  limit := 2

def itemsPlan (options : EntityOptions) : Plan := { query := itemsAfterFirst options }

def itemRows (ids : List Int) : List Row := ids.map fun n => [("id", .int n)]

def fiveItems : List Row := itemRows [1, 2, 3, 4, 5]

def pageOf (ids : List Int) : Value := .list ((itemRows ids).map .map)

def itemService (page : Value) : Transport Unit where
  baseUrl := ""
  send _ := pure { text := Json.write Json.compact page }
  freshName := pure ""

/-- The request for items with the parameters of a window. -/
def itemsRequest (window : Url.Params) : Request := .withParams "GET" "items" window []

/-- A dialect that has no request for the number of rows. -/
theorem remotePage_itemService {options : EntityOptions} {page : Value} (hd : d.isOData = false)
    (hp : Plan.of d (itemsAfterFirst options) = .ok (itemsPlan options))
    (hremotely : (itemsPlan options).pagesRemotely d = .ok true)
    (hr : (itemsPlan options).readRequest? d = .ok (some request))
    (hoffset : (itemsPlan options).Asks d request (d.offsetParam? options) offset)
    (hlimit : (itemsPlan options).Asks d request (d.limitParam? options) limit)
    (hanswer : ∃ body, Body.ofResponse d { text := Json.write Json.compact page } = .ok body ∧
      body.rows d (itemsAfterFirst options) false = .ok (applyWindow offset limit fiveItems) ∧
      ∃ count, body.count d (itemsPlan options).entity = .ok count) :
    RemotePage d (itemsAfterFirst options) (itemsPlan options) (itemService page) () request
      fiveItems offset limit where
  offset_pos := Int.one_pos
  limit_pos := show (0 : Int) < 2 by decide
  divided := hp
  remotely := hremotely
  compiled := hr
  asksOffset := hoffset
  asksLimit := hlimit
  answered := by
    obtain ⟨body, hbody, hrows, hcounter⟩ := hanswer
    refine ⟨_, body, (), rfl, hbody, hrows, hcounter, fun asked h => ?_⟩
    rw [Plan.countRequest?, Dialect.countRequest?, hd] at h
    cases h

/-- Names for the offset and the limit. -/
def namedOptions : EntityOptions :=
  { requestOffsetParameter := some "start", requestLimitParameter := some "limit" }

theorem read_itemService_named : ∃ result s',
    (itemsAfterFirst namedOptions).read .json (itemService (pageOf [2, 3])) () = (.ok result, s') ∧
      result.rows = itemRows [2, 3] := by
  have hpage : RemotePage .json (itemsAfterFirst namedOptions) (itemsPlan namedOptions)
      (itemService (pageOf [2, 3])) () (itemsRequest [("start", some "1"), ("limit", some "2")])
      fiveItems 1 2 :=
    remotePage_itemService rfl rfl rfl (by decide +kernel) (Plan.asks_of_sentTexts rfl rfl)
      (Plan.asks_of_sentTexts rfl rfl)
      ⟨.data (pageOf [2, 3]), by decide +kernel, by decide +kernel, none, rfl⟩
  obtain ⟨result, s', hread, hrows, -⟩ := pageRows_right_iff hpage
  exact ⟨result, s', hread, hrows ⟨"start", by decide +kernel, nofun⟩⟩

/-- No name for the offset. -/
def unnamedOptions : EntityOptions := { requestLimitParameter := some "limit" }

/-- The page from the second item on is the first page where the offset has no name. -/
theorem read_itemService_firstPage :
    RemotePage .json (itemsAfterFirst unnamedOptions) (itemsPlan unnamedOptions)
      (itemService (pageOf [1, 2])) () (itemsRequest [("limit", some "2")]) fiveItems 0 2 ∧
    ((itemsAfterFirst unnamedOptions).read .json (itemService (pageOf [1, 2])) ()).1 =
      .ok { rows := itemRows [1, 2] } ∧
    itemRows [1, 2] ≠ applyWindow 1 2 fiveItems := by
  refine ⟨?_, by decide +kernel, by decide +kernel⟩
  exact remotePage_itemService rfl rfl rfl (by decide +kernel) rfl
    (Plan.asks_of_sentTexts rfl rfl)
    ⟨.data (pageOf [1, 2]), by decide +kernel, by decide +kernel, none, rfl⟩

end EntityQuery
