import EntityQuery.Proofs.ItemTable
import EntityQuery.Proofs.PageCount
import EntityQuery.Proofs.SteadyService

/-!
# Reading page after page

Where the window is cut after reading, nothing that is sent depends on it
(`Plan.gather_withWindow`), so that a steady service gives the same rows to every window
(`Query.exists_readWindow`). A page is then the next part of these rows, and the pages one after the
other are all of them (`Query.exists_walk`).

The queries for single items that a read is divided into are sent without a window as well, unless a
value is itself a list of missing values and names no item (`Plan.pagesLocally_of_held`): its query
goes to the address of all items, where the service cuts the window once more.
-/

namespace EntityQuery

/-- The query with another window. -/
def Query.withWindow (q : Query) (offset limit : Int) : Query :=
  { q with offset := offset, limit := limit }

/-- The pages of a query from an offset on, each read behind the rows of those before it, up to the
first that reports no more rows. -/
inductive Query.Walk {σ : Type} (q : Query) (d : Dialect) (t : Transport σ) :
    Int → σ → List ReadResult → σ → Prop
  | last {offset : Int} {s s' : σ} {page : ReadResult}
      (read : (q.withWindow offset q.limit).read d t s = (.ok page, s'))
      (done : page.hasMore = false) : Walk q d t offset s [page] s'
  | next {offset : Int} {s s' s'' : σ} {page : ReadResult} {pages : List ReadResult}
      (read : (q.withWindow offset q.limit).read d t s = (.ok page, s'))
      (more : page.hasMore = true)
      (rest : Walk q d t (offset + page.rows.length) s' pages s'') :
      Walk q d t offset s (page :: pages) s''

/-- There is one way to walk. -/
theorem Query.Walk.unique {σ : Type} {q : Query} {d : Dialect} {t : Transport σ} {offset : Int}
    {s s₁ s₂ : σ} {pages₁ pages₂ : List ReadResult} (h₁ : q.Walk d t offset s pages₁ s₁)
    (h₂ : q.Walk d t offset s pages₂ s₂) : pages₁ = pages₂ := by
  induction h₁ generalizing pages₂ with
  | last hread hdone =>
    cases h₂ with
    | last hread' _ =>
      cases hread.symm.trans hread'
      rfl
    | next hread' hmore' _ =>
      cases hread.symm.trans hread'
      rw [hdone] at hmore'
      cases hmore'
  | next hread hmore _ ih =>
    cases h₂ with
    | last hread' hdone' =>
      cases hread.symm.trans hread'
      rw [hmore] at hdone'
      cases hdone'
    | next hread' _ hrest' =>
      cases hread.symm.trans hread'
      rw [ih hrest']

namespace Plan

variable {σ : Type} {d : Dialect} {q : Query} {p : Plan} {t : Transport σ} {s : σ}

/-- The plan with another window. -/
def withWindow (p : Plan) (offset limit : Int) : Plan :=
  { p with query := p.query.withWindow offset limit }

/-- Whether the window of a plan is cut after reading, and the service cuts none for the plans that
are run in its place. -/
structure PagesLocally (p : Plan) (d : Dialect) : Prop where
  whole : p.pagesRemotely d = .ok false
  parts : ∀ plans, p.fanOut = .ok plans → ∀ p' ∈ plans, p'.pagesRemotely d ≠ .ok true

theorem itemCondition?_withCondition {place : Place} {c x : Condition}
    (hitem : p.itemCondition? = .ok (some (place, x)))
    (hc : ∀ uid, namesItems uid x = .ok true → namesItems uid c = .ok true) :
    (p.withCondition place c).itemCondition? = .ok (some (place, c)) := by
  obtain ⟨address, uid, haddress, huid, hfirst⟩ := itemCondition?_eq_some_iff.1 hitem
  obtain ⟨hmem, hnames⟩ := of_firstNaming hfirst
  have hplace : ∀ l ∈ p.topLevel, l.1 = place → l.2 = x := by
    intro l hl hl'
    have hget := getElem?_leaves hl
    rw [hl', getElem?_leaves hmem] at hget
    exact (Option.some.inj hget).symm
  refine itemCondition?_eq_some_iff.2 ⟨address, uid, ?_, ?_, ?_⟩
  · cases place <;> exact haddress
  · cases place <;> exact huid
  · rw [topLevel_withCondition]
    exact firstNaming_putAt hfirst hplace (hc uid hnames)

/-- The plans that are run are the plan itself, or it is divided into those for single values. -/
theorem of_mem_fanOut {plans : List Plan} {p' : Plan} (hplans : p.fanOut = .ok plans)
    (hp' : p' ∈ plans) : p' = p ∨ ∃ place c v, p.itemCondition? = .ok (some (place, c)) ∧
      v ∈ c.members ∧ p' = p.withCondition place (c.only v) := by
  obtain ⟨item, hitem, hplans⟩ := Except.bind_eq_ok_iff.1 hplans
  have hself : Except.ok [p] = Except.ok (ε := Error) plans → p' = p := by
    intro h
    cases h
    exact List.mem_singleton.1 hp'
  rcases item with _ | ⟨place, c⟩
  · exact .inl (hself hplans)
  simp only at hplans
  split_ifs at hplans
  · obtain ⟨values, hvalues, hplans⟩ := Except.bind_eq_ok_iff.1 hplans
    rcases values with _ | ⟨v, _ | ⟨w, rest⟩⟩
    · exact .inl (hself hplans)
    · exact .inl (hself hplans)
    · cases hplans
      obtain ⟨u, hu, rfl⟩ := List.mem_map.1 hp'
      rw [← Condition.members_eq_of_values hvalues] at hu
      exact .inr ⟨place, c, u, hitem, hu, rfl⟩
  · exact .inl (hself hplans)

/-- The service cuts no window for the parts of a read that cuts its own, as long as no value is a
hollow list. -/
theorem pagesLocally_of_held (h : p.pagesRemotely d = .ok false)
    (hheld : ∀ place c, p.itemCondition? = .ok (some (place, c)) →
      ∀ v ∈ c.members, ¬v.Hollow) : p.PagesLocally d where
  whole := h
  parts := by
    intro plans hplans p' hp'
    rcases of_mem_fanOut hplans hp' with rfl | ⟨place, c, v, hitem, hv, rfl⟩
    · simp [h]
    · have hitem' := itemCondition?_withCondition (c := c.only v) hitem fun uid hnames =>
        Condition.namesItems_only (namesItems_iff.1 hnames).1
          (Condition.isMissing_of_mem_members hv) (hheld place c hitem v hv)
      simp [pagesRemotely_of_item hitem']

/-- Whether a request is one of those that a plan compiles to. -/
def Sends (p : Plan) (d : Dialect) (r : Request) : Prop :=
  ∃ plans, p.fanOut = .ok plans ∧ ∃ p' ∈ plans, p'.readRequest? d = .ok (some r)

/-- All that is fetched for a plan. -/
def gather (p : Plan) (d : Dialect) (t : Transport σ) : Exchange σ (List Fetched) := do
  let itemScoped ← p.isItemScoped
  let plans ← p.fanOut
  fetchAll d t itemScoped plans

variable (offset limit : Int)

theorem of_withWindow (h : Plan.of d q = .ok p) :
    Plan.of d (q.withWindow offset limit) = .ok (p.withWindow offset limit) := by
  obtain ⟨filters, hsplit, h⟩ := Except.bind_eq_ok_iff.1 h
  cases h
  exact Except.bind_of_ok _ hsplit

theorem withWindow_withCondition (place : Place) (c : Condition) :
    (p.withWindow offset limit).withCondition place c =
      (p.withCondition place c).withWindow offset limit := by
  cases place <;> rfl

theorem fanOut_withWindow : (p.withWindow offset limit).fanOut =
    p.fanOut.map (List.map (·.withWindow offset limit)) := by
  have hitem : (p.withWindow offset limit).itemCondition? = p.itemCondition? := rfl
  unfold fanOut
  rw [hitem]
  cases p.itemCondition? with
  | error e => rfl
  | ok item =>
    rcases item with _ | ⟨place, c⟩
    · rfl
    · simp only [bind, Except.bind]
      split_ifs
      · rcases c.values with e | _ | ⟨v, _ | ⟨w, rest⟩⟩
        · rfl
        · rfl
        · rfl
        · simp [Except.map, pure, Except.pure, withWindow_withCondition]
      · rfl

theorem readRequest?_withWindow (h : p.pagesRemotely d ≠ .ok true) :
    (p.withWindow offset limit).readRequest? d = p.readRequest? d := by
  have hpages : (p.withWindow offset limit).pagesRemotely d = p.pagesRemotely d := rfl
  have hparams : ∀ consumed, (p.withWindow offset limit).readParams d consumed =
      p.readParams d consumed := by
    intro consumed
    unfold readParams
    rw [hpages]
    rcases hp : p.pagesRemotely d with e | _ | _
    · rfl
    · rfl
    · exact absurd hp h
  have hdocument : (p.withWindow offset limit).documentArguments d = p.documentArguments d := by
    unfold documentArguments
    rw [hpages]
    rcases hp : p.pagesRemotely d with e | _ | _
    · rfl
    · rfl
    · exact absurd hp h
  cases d with
  | graphql =>
    unfold readRequest? documentRequest?
    simp only [hdocument]
    rfl
  | _ =>
    unfold readRequest? urlRequest?
    simp only [hparams]
    rfl

theorem fetchAll_withWindow {plans : List Plan}
    (h : ∀ p ∈ plans, p.pagesRemotely d ≠ .ok true) (itemScoped : Bool) :
    fetchAll d t itemScoped (plans.map (·.withWindow offset limit)) =
      fetchAll d t itemScoped plans := by
  induction plans with
  | nil => rfl
  | cons p plans ih =>
    rw [List.forall_mem_cons] at h
    have hfetch : (p.withWindow offset limit).fetch? d t itemScoped = p.fetch? d t itemScoped := by
      unfold fetch?
      rw [readRequest?_withWindow offset limit h.1]
      rfl
    rw [List.map_cons, fetchAll, fetchAll, hfetch, ih h.2]

/-- Nothing that is fetched depends on a window that is cut after reading. -/
theorem gather_withWindow (h : p.PagesLocally d) :
    (p.withWindow offset limit).gather d t = p.gather d t := by
  have hscope : (p.withWindow offset limit).isItemScoped = p.isItemScoped := rfl
  unfold gather
  rw [hscope, fanOut_withWindow]
  refine congrArg (liftM p.isItemScoped >>= ·) (funext fun itemScoped => ?_)
  cases hplans : p.fanOut with
  | error e => rfl
  | ok plans => exact fetchAll_withWindow offset limit (h.parts plans hplans) itemScoped

/-- The rows that a window is cut out of. -/
def collected (p : Plan) (fetched : List Fetched) : Except Error (List Row) :=
  if fetched.isEmpty then .ok [] else p.refine (fetched.flatMap (·.rows))

theorem finish_eq (hoffset : 0 ≤ p.query.offset) (fetched : List Fetched) :
    p.finish fetched = (p.collected fetched).map p.localWindow := by
  unfold finish collected
  split_ifs
  · have hnone : p.localWindow [] = .empty := by
      simp [localWindow, ReadResult.empty, applyWindow, hoffset]
    simp [Except.map, hnone]
  · cases p.refine (fetched.flatMap (·.rows)) <;> rfl

theorem run_eq_gather (h : p.pagesRemotely d = .ok false) :
    p.run d t s = ((p.gather d t s).1 >>= p.finish, (p.gather d t s).2) := by
  unfold gather
  cases hscope : p.isItemScoped with
  | error e =>
    unfold run
    rw [hscope]
    rfl
  | ok itemScoped =>
    cases hplans : p.fanOut with
    | error e =>
      unfold run
      rw [Exchange.lift_bind_of_ok _ hscope, Exchange.lift_bind_of_ok _ h, hplans]
      rfl
    | ok plans => exact run_of_plans hscope h hplans

theorem repeats_gather (ht : t.Steady (p.Sends d) s) :
    t.Repeats (p.Sends d) s (p.gather d t) := by
  unfold gather
  refine Transport.repeats_bind (Transport.repeats_lift _) fun itemScoped _ => ?_
  refine Transport.repeats_bind (Transport.repeats_lift _) fun plans hplans => ?_
  rw [Exchange.lift_apply] at hplans
  exact repeats_fetchAll ht itemScoped fun p' hp' r hr => ⟨plans, hplans, p', hp', hr⟩

end Plan

section Pages

variable {σ : Type} {d : Dialect} {q : Query} {p : Plan} {t : Transport σ} {s : σ}

/-- Every window is cut out of the same rows. -/
theorem Query.exists_readWindow (hp : Plan.of d q = .ok p) (hlocal : p.PagesLocally d)
    (ht : t.Steady (p.Sends d) s) : ∃ outcome : Except Error (List Row),
      ∀ s', t.Leads (p.Sends d) s s' → ∀ offset limit : Int, 0 ≤ offset →
        ∃ s'', t.Leads (p.Sends d) s s'' ∧ (q.withWindow offset limit).read d t s' =
          (outcome.map (p.withWindow offset limit).localWindow, s'') := by
  refine ⟨(p.gather d t s).1 >>= p.collected, fun s' hs' offset limit hoffset => ?_⟩
  obtain ⟨hsame, hleads⟩ := Plan.repeats_gather ht s' hs'
  refine ⟨_, hleads, ?_⟩
  have hplan := Plan.of_withWindow offset limit hp
  have hwhole : (p.withWindow offset limit).pagesRemotely d = .ok false := hlocal.whole
  rw [Query.read, Exchange.lift_bind_of_ok _ hplan, Plan.run_eq_gather hwhole,
    Plan.gather_withWindow offset limit hlocal, hsame]
  refine congrArg (·, (p.gather d t s').2) ?_
  cases (p.gather d t s).1 with
  | error e => rfl
  | ok fetched => exact Plan.finish_eq hoffset fetched

/-- A window and what is behind it are all that is left from its offset on. -/
theorem applyWindow_append_drop {offset : Int} (hoffset : 0 ≤ offset) (limit : Int)
    (rows : List Row) : applyWindow offset limit rows ++
      rows.drop (offset + (applyWindow offset limit rows).length).toNat =
        rows.drop offset.toNat := by
  have hsum : (offset + (applyWindow offset limit rows).length).toNat =
      offset.toNat + (applyWindow offset limit rows).length := by omega
  have hlead : applyWindow offset limit rows <+: rows.drop offset.toNat := by
    unfold applyWindow
    split_ifs
    · exact List.take_prefix _ _
    · exact List.prefix_refl _
  rw [hsum, ← List.drop_drop]
  exact List.prefix_iff_eq_append.1 hlead

/-- From every offset on, the pages are what is left of the rows. -/
theorem Query.exists_walk {rows : List Row} (hlimit : 0 < q.limit)
    (hread : ∀ s', t.Leads (p.Sends d) s s' → ∀ offset : Int, 0 ≤ offset →
      ∃ s'', t.Leads (p.Sends d) s s'' ∧ (q.withWindow offset q.limit).read d t s' =
        (.ok ((p.withWindow offset q.limit).localWindow rows), s''))
    {offset : Int} (hoffset : 0 ≤ offset) {s' : σ} (hs' : t.Leads (p.Sends d) s s') :
    ∃ pages s'', q.Walk d t offset s' pages s'' ∧
      pages.flatMap (·.rows) = rows.drop offset.toNat ∧
      ∀ page ∈ pages, page.total = some (rows.length : Int) := by
  induction hleft : rows.length - offset.toNat using Nat.strongRecOn
    generalizing offset s' with
  | ind left ih =>
    obtain ⟨s₁, hs₁, hpage⟩ := hread s' hs' offset hoffset
    have hlength := length_applyWindow offset q.limit rows
    rw [if_pos hlimit] at hlength
    have happend := applyWindow_append_drop hoffset q.limit rows
    by_cases hmore : offset + (applyWindow offset q.limit rows).length < rows.length
    · have hnonneg : 0 ≤ offset + (applyWindow offset q.limit rows).length := by omega
      obtain ⟨pages, s₂, hwalk, hrows, htotal⟩ := ih _ (by omega) hnonneg hs₁ rfl
      refine ⟨_ :: pages, s₂, .next hpage (decide_eq_true hmore) hwalk, ?_, ?_⟩
      · rw [List.flatMap_cons, hrows]
        exact happend
      · rw [List.forall_mem_cons]
        exact ⟨rfl, htotal⟩
    · refine ⟨[_], s₁, .last hpage (decide_eq_false hmore), ?_, ?_⟩
      · rw [List.flatMap_cons, List.flatMap_nil, List.append_nil, ← happend,
          List.drop_eq_nil_of_le (by omega), List.append_nil]
        rfl
      · rw [List.forall_mem_singleton]
        rfl

/-- Where the window is cut after reading and the service is steady, the pages one after the other
are the rows of the whole query, and each reports their number. A read of the whole that fails
fails for the first page in the same way. -/
theorem walk_of_pagesLocally (hp : Plan.of d q = .ok p) (hlocal : p.PagesLocally d)
    (hlimit : 0 < q.limit) (ht : t.Steady (p.Sends d) s) :
    (∃ whole pages s' s'', (q.withWindow 0 0).read d t s = (.ok whole, s') ∧
      q.Walk d t 0 s pages s'' ∧ pages.flatMap (·.rows) = whole.rows ∧
      ∀ page ∈ pages, page.total = some (whole.rows.length : Int)) ∨
    ∃ e s' s'', (q.withWindow 0 0).read d t s = (.error e, s') ∧
      (q.withWindow 0 q.limit).read d t s = (.error e, s'') := by
  obtain ⟨outcome, hread⟩ := Query.exists_readWindow hp hlocal ht
  have hstart := Transport.Leads.refl t (p.Sends d) s
  obtain ⟨s', -, hwhole⟩ := hread s hstart 0 0 (Int.le_refl 0)
  cases outcome with
  | error e =>
    obtain ⟨s'', -, hfirst⟩ := hread s hstart 0 q.limit (Int.le_refl 0)
    exact .inr ⟨e, s', s'', hwhole, hfirst⟩
  | ok rows =>
    obtain ⟨pages, s'', hwalk, hrows, htotal⟩ := Query.exists_walk hlimit
      (fun s' hs' offset hoffset => hread s' hs' offset q.limit hoffset) (Int.le_refl 0) hstart
    exact .inl ⟨_, pages, s', s'', hwhole, hwalk, hrows, htotal⟩

def threeListed : Query := listedQuery {} [2, 1, 3] [] 2

theorem walk_threeListed : Plan.of .json threeListed = .ok (laterPlan threeListed) ∧
    (laterPlan threeListed).PagesLocally .json ∧
    (catalogue itemPages).Steady ((laterPlan threeListed).Sends .json) () ∧
    ∃ pages s', threeListed.Walk .json (catalogue itemPages) 0 () pages s' ∧
      pages.flatMap (·.rows) = itemRows [2, 1, 3] ∧ ∀ page ∈ pages, page.total = some 3 := by
  have hlocal : (laterPlan threeListed).PagesLocally .json := by
    refine Plan.pagesLocally_of_held rfl fun place c hitem v hv => ?_
    cases hitem
    have hmem : v ∈ [.int 2, .int 1, .int 3] := hv
    rintro ⟨items, rfl, -⟩
    simp at hmem
  have hsteady : (catalogue itemPages).Steady ((laterPlan threeListed).Sends .json) () :=
    fun _ _ _ _ => rfl
  refine ⟨rfl, hlocal, hsteady, ?_⟩
  have hwhole : ((threeListed.withWindow 0 0).read .json (catalogue itemPages) ()).1 =
      .ok { rows := itemRows [2, 1, 3], total := some 3 } := by decide +kernel
  have hlimit : 0 < threeListed.limit := by decide
  rcases walk_of_pagesLocally rfl hlocal hlimit hsteady with
    ⟨whole, pages, s', s'', hread, hwalk, hrows, htotal⟩ | ⟨e, s', s'', hread, -⟩ <;>
    rw [hread] at hwhole <;> cases hwhole
  exact ⟨pages, s'', hwalk, hrows, htotal⟩

/-- The attribute of an item, whose conditions are sent to the service. -/
def sentId : Attribute :=
  { name := "id", dataAddress := "id", options := { filterRemote := some true } }

/-- A query for no item at all and for the item 1, one to a page. -/
def hollowListed : Query where
  entity :=
    { name := "items", dataAddress := "items", uidName := some "id", attributes := [sentId]
      options := { namedOptions with uidRequestDataAddress := some "items/[#uid#]" } }
  filters := .mk .and [.condition { target := .attribute sentId, comparator := .isIn,
                                    value := .list [.list [], .int 1] }] []
  limit := 1

def hollowPlan : Plan := { query := hollowListed, remote := hollowListed.filters }

/-- Two items and the pages of them, each at its address. -/
def directory : Transport Unit where
  baseUrl := ""
  send r :=
    let pages := [("items?id=", [1, 2]), ("items?id=&limit=1", [1]),
      ("items?id=&start=1&limit=1", [2]), ("items/1", [1])]
    pure { text := Json.write Json.compact (pageOf ((pages.lookup r.uri).getD [])) }
  freshName := pure ""

/-- A value that is an empty list is read from the address of all items, page by page. The second
page starts behind the rows of both requests, and the second item is on none. -/
theorem walk_hollowListed : Plan.of .json hollowListed = .ok hollowPlan ∧
    hollowPlan.pagesRemotely .json = .ok false ∧
    directory.Steady (hollowPlan.Sends .json) () ∧
    ((hollowListed.withWindow 0 0).read .json directory ()).1 =
      .ok { rows := itemRows [1, 2, 1], total := some 3 } ∧
    ∃ pages s', hollowListed.Walk .json directory 0 () pages s' ∧
      pages.flatMap (·.rows) ≠ itemRows [1, 2, 1] ∧ ∀ page ∈ pages, page.total ≠ some 3 := by
  refine ⟨rfl, by decide +kernel, fun _ _ _ _ => rfl, by decide +kernel, ?_⟩
  have hfirst : ((hollowListed.withWindow 0 1).read .json directory ()).1 =
      .ok { rows := itemRows [1], total := some 2, hasMore := true } := by decide +kernel
  have hlast : ((hollowListed.withWindow 1 1).read .json directory ()).1 =
      .ok { rows := itemRows [1], total := some 2 } := by decide +kernel
  have hwalk : hollowListed.Walk .json directory 0 ()
      [{ rows := itemRows [1], total := some 2, hasMore := true },
        { rows := itemRows [1], total := some 2 }] () :=
    .next (Prod.ext hfirst (Subsingleton.elim _ _)) rfl
      (.last (Prod.ext hlast (Subsingleton.elim _ _)) rfl)
  exact ⟨_, (), hwalk, by decide +kernel, by decide +kernel⟩

end Pages

end EntityQuery
