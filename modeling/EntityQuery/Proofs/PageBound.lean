import EntityQuery.Gateway.Basic
import EntityQuery.Proofs.PageCount

/-!
# The largest page of a gateway

A read of the gateway asks for at most the largest page. The answer has no more rows either where
the window is cut after reading, and where a row beyond the limit is read and left out again. Where
the service cuts the window in any other way, its rows are passed on as they are, so that the answer
is a page exactly where those of the service are (`Gateway.read_bounded_iff`).
-/

namespace EntityQuery

namespace Plan

variable {σ : Type} {p : Plan} {d : Dialect} {t : Transport σ} {s s' : σ} {result : ReadResult}

/-- The rows that the service hands over in the answer to the request of a plan. -/
def receivedRows (p : Plan) (d : Dialect) (t : Transport σ) (s : σ) : List Row :=
  match (p.fetch? d t false s).1 with
  | .ok (some fetched) => fetched.rows
  | _ => []

/-- How a run ends well: with nothing to fetch, with a window that the service cut, or with one that
is cut after reading. -/
theorem run_cases (h : p.run d t s = (.ok result, s')) :
    ∃ itemScoped plans fetched s₁, p.isItemScoped = .ok itemScoped ∧ p.fanOut = .ok plans ∧
      fetchAll d t itemScoped plans s = (.ok fetched, s₁) ∧
      (fetched = [] ∧ result = .empty ∨
        (∃ first others window kept, p.pagesRemotely d = .ok true ∧ fetched = first :: others ∧
          p.remoteWindow d t first (fetched.flatMap (·.rows)) s₁ = (.ok window, s') ∧
          p.refine window.rows = .ok kept ∧
          result = p.closeWindow { window with rows := kept }) ∨
        ∃ kept, p.pagesRemotely d = .ok false ∧ p.refine (fetched.flatMap (·.rows)) = .ok kept ∧
          result = p.localWindow kept) := by
  obtain ⟨itemScoped, hscope, h⟩ := Exchange.exists_of_lift_bind_ok h
  obtain ⟨remotely, hremotely, h⟩ := Exchange.exists_of_lift_bind_ok h
  obtain ⟨plans, hplans, h⟩ := Exchange.exists_of_lift_bind_ok h
  obtain ⟨fetched, s₁, hfetched, h⟩ := Exchange.exists_of_bind_ok h
  refine ⟨itemScoped, plans, fetched, s₁, hscope, hplans, hfetched, ?_⟩
  cases fetched with
  | nil =>
    cases h
    exact .inl ⟨rfl, rfl⟩
  | cons first others =>
    cases remotely with
    | true =>
      obtain ⟨window, s₂, hwindow, h⟩ := Exchange.exists_of_bind_ok h
      obtain ⟨kept, hkept, h⟩ := Exchange.exists_of_lift_bind_ok h
      cases h
      exact .inr (.inl ⟨first, others, window, kept, hremotely, rfl, hwindow, hkept, rfl⟩)
    | false =>
      obtain ⟨kept, hkept, h⟩ := Exchange.exists_of_lift_bind_ok h
      cases h
      exact .inr (.inr ⟨kept, hremotely, hkept, rfl⟩)

theorem rows_of_remoteWindow {first : Fetched} {rows : List Row} {window : ReadResult}
    (h : p.remoteWindow d t first rows s = (.ok window, s')) :
    window.rows = if d.readsExtraRow p.options p.query.limit then
      rows.take p.query.limit.toNat else rows := by
  cases hextra : d.readsExtraRow p.options p.query.limit with
  | true =>
    rw [remoteWindow_of_extra first rows hextra] at h
    cases h
    rw [if_pos rfl]
    split_ifs with hmore
    · rfl
    · have hshort : rows.length ≤ p.query.limit.toNat := by omega
      exact (List.take_of_length_le hshort).symm
  | false =>
    unfold remoteWindow at h
    rw [hextra, if_neg Bool.false_ne_true] at h
    rw [if_neg Bool.false_ne_true]
    split at h <;> obtain ⟨total, s₁, -, h⟩ := Exchange.exists_of_bind_ok h <;> cases h <;> rfl

/-- Where the service cuts the window, the rows of its one answer are passed on but for the row
beyond the limit, if one is read, and for groups after the first, if only that one is kept. -/
theorem rows_of_remotely (hremotely : p.pagesRemotely d = .ok true)
    (h : p.run d t s = (.ok result, s')) :
    result.rows = p.grouped (if d.readsExtraRow p.options p.query.limit then
      (p.receivedRows d t s).take p.query.limit.toNat else p.receivedRows d t s) := by
  obtain ⟨-, hfilters, hsorters, hitem⟩ := pagesRemotely_eq_true hremotely
  obtain ⟨itemScoped, plans, fetched, s₁, hscope, hplans, hfetched, hcases⟩ := run_cases h
  cases (isItemScoped_of_none hitem).symm.trans hscope
  cases (fanOut_of_none hitem).symm.trans hplans
  obtain ⟨one, s₂, hone, hfetched⟩ := Exchange.exists_of_bind_ok hfetched
  cases hfetched
  rcases hcases with ⟨hnone, rfl⟩ | ⟨first, others, window, kept, -, hfirst, hwindow, hkept, rfl⟩ |
    ⟨kept, hlocally, -⟩
  · have hreceived : p.receivedRows d t s = [] := by
      rw [receivedRows, hone]
      cases one with
      | none => rfl
      | some _ => cases hnone
    rw [hreceived, List.take_nil, ite_self]
    exact (List.sublist_nil.1 (p.grouped_sublist [])).symm
  · obtain rfl : one = some first := by
      cases one with
      | none => cases hfirst
      | some _ => exact congrArg some (List.cons.inj hfirst).1
    have hreceived : p.receivedRows d t s = first.rows := by rw [receivedRows, hone]
    have hall : ((some first).toList ++ []).flatMap Fetched.rows = first.rows := by simp
    rw [hall] at hwindow
    rw [refine_eq hfilters hsorters] at hkept
    rw [rows_closeWindow, hreceived, ← rows_of_remoteWindow hwindow]
    exact (Except.ok.inj hkept).symm
  · cases hremotely.symm.trans hlocally

/-- A window that is cut after reading is no longer than the limit. -/
theorem length_rows_of_locally (hlimit : 0 < p.query.limit)
    (hlocally : p.pagesRemotely d ≠ .ok true) (h : p.run d t s = (.ok result, s')) :
    (result.rows.length : Int) ≤ p.query.limit := by
  obtain ⟨_, _, _, _, -, -, -, hcases⟩ := run_cases h
  rcases hcases with ⟨-, rfl⟩ | ⟨-, -, -, -, hremotely, -⟩ | ⟨kept, -, -, rfl⟩
  · exact Int.le_of_lt hlimit
  · exact absurd hremotely hlocally
  · rw [localWindow, length_applyWindow, if_pos hlimit]
    omega

/-- A run has at most as many rows as its limit, unless the service is to cut the window, no row
beyond the limit is read, and the service hands over more. -/
theorem length_rows_le_iff (hlimit : 0 < p.query.limit) {bound : Int}
    (hbound : p.query.limit ≤ bound) (h : p.run d t s = (.ok result, s')) :
    (result.rows.length : Int) ≤ bound ↔
      (p.pagesRemotely d = .ok true → d ≠ .graphql →
        ((p.grouped (p.receivedRows d t s)).length : Int) ≤ bound) := by
  by_cases hremotely : p.pagesRemotely d = .ok true
  · rw [rows_of_remotely hremotely h, Dialect.readsExtraRow, (pagesRemotely_eq_true hremotely).1]
    by_cases hd : d = .graphql
    · have hle := (p.grouped_sublist ((p.receivedRows d t s).take p.query.limit.toNat)).length_le
      rw [List.length_take] at hle
      simp [hd, hlimit] at hle ⊢
      omega
    · simp [hd, hremotely]
  · have hle := length_rows_of_locally hlimit hremotely h
    exact iff_of_true (Int.le_trans hle hbound) fun htrue => absurd htrue hremotely

end Plan

/-- The rows of an answer. -/
def Answer.rows? : Answer → Option (List Value)
  | .done result => match result.get? "rows" with
    | some (.list rows) => some rows
    | _ => none
  | _ => none

theorem Answer.rows?_eq_some_iff {a : Answer} {rows : List Value} :
    a.rows? = some rows ↔ ∃ result, a = .done result ∧ result.get? "rows" = some (.list rows) := by
  constructor
  · intro h
    unfold rows? at h
    split at h
    · rename_i result
      refine ⟨result, rfl, ?_⟩
      split at h <;> cases h
      assumption
    · cases h
  · rintro ⟨result, rfl, hrows⟩
    rw [rows?, hrows]

namespace Check

variable {α β : Type}

theorem exists_of_seq {f : Check (α → β)} {x : Check α} {b : β} (h : f <*> x = .valid b) :
    ∃ g a, f = .valid g ∧ x = .valid a ∧ b = g a := by
  cases f <;> cases x <;> cases h
  exact ⟨_, _, rfl, rfl, rfl⟩

theorem natural_nonneg {v : Value} {n : Int} (h : natural v = .valid n) : 0 ≤ n := by
  unfold natural at h
  split at h
  · split_ifs at h with hn
    · cases h
      exact hn
    · cases h
  · cases h

/-- A member has what its check gives, or its default. -/
theorem member_cases {form : Row} {name : String} {default : Option α} {read : Value → Check α}
    {a : α} (h : member form name default read = .valid a) :
    default = some a ∨ ∃ v, read v = .valid a := by
  unfold member at h
  split at h
  · rename_i v _
    cases hv : read v with
    | valid b =>
      rw [hv] at h
      exact .inr ⟨v, hv.trans h⟩
    | faulty places =>
      rw [hv] at h
      cases h
  · cases h
    exact .inl rfl
  · cases h

end Check

theorem QueryForm.limit_nonneg {v : Value} {f : QueryForm} (h : QueryForm.read v = .valid f) :
    0 ≤ f.limit := by
  cases v with
  | map form =>
    obtain ⟨_, rows, h₇, -, rfl⟩ := Check.exists_of_seq h
    obtain ⟨_, limit, h₆, hlimit, rfl⟩ := Check.exists_of_seq h₇
    obtain ⟨_, _, h₅, -, rfl⟩ := Check.exists_of_seq h₆
    obtain ⟨_, _, h₄, -, rfl⟩ := Check.exists_of_seq h₅
    obtain ⟨_, _, h₃, -, rfl⟩ := Check.exists_of_seq h₄
    obtain ⟨_, _, h₂, -, rfl⟩ := Check.exists_of_seq h₃
    obtain ⟨_, _, h₁, -, rfl⟩ := Check.exists_of_seq h₂
    obtain ⟨_, _, h₀, -, rfl⟩ := Check.exists_of_seq h₁
    cases h₀
    rcases Check.member_cases hlimit with hnone | ⟨v, hv⟩
    · cases hnone
      exact Int.le_refl 0
    · exact Check.natural_nonneg hv
  | _ => cases h

theorem QueryForm.limit_query {f : QueryForm} {q : Query} (h : f.query = .ok q) :
    q.limit = f.limit := by
  obtain ⟨e, -, h⟩ := Except.bind_eq_ok_iff.1 h
  dsimp only at h
  split at h <;>
  · obtain ⟨filters, -, h⟩ := Except.bind_eq_ok_iff.1 h
    obtain ⟨sorters, -, h⟩ := Except.bind_eq_ok_iff.1 h
    cases h
    rfl

namespace Gateway

variable {ω : Type} {g : Gateway} {env : Environment} {server : Server ω} {names : Nat → String}
  {v : Visit} {f : QueryForm} {result : Row} {s s' : Session ω}

theorem pageLimit_mem (hmax : 1 ≤ g.maxLimit) {asked : Int} (hasked : 0 ≤ asked) :
    0 < g.pageLimit asked ∧ g.pageLimit asked ≤ g.maxLimit := by
  unfold pageLimit
  split_ifs <;> omega

/-- What a read of the gateway runs: the plan of the query with the limit of a page, against the
service of the environment. -/
structure Runs (g : Gateway) (env : Environment) (f : QueryForm) (connection : Connection)
    (d : Dialect) (p : Plan) : Prop where
  connected : Connection.resolve env {} = .ok connection
  spoken : connection.dialectFor (some f.dialect) = .ok d
  divided : ∃ q, f.query = .ok q ∧ Plan.of d { q with limit := g.pageLimit q.limit } = .ok p

theorem exists_run_of_read (h : g.read env server names f s = (.ok result, s')) :
    ∃ connection d p found, g.Runs env f connection d p ∧
      p.run d (Session.transport server connection.config names) s = (.ok found, s') ∧
      result.get? "rows" = some (.ofRows found.rows) := by
  obtain ⟨q, hq, h⟩ := Exchange.exists_of_lift_bind_ok h
  obtain ⟨connection, hconnected, h⟩ := Exchange.exists_of_lift_name_bind_ok h
  obtain ⟨d, hspoken, h⟩ := Exchange.exists_of_lift_name_bind_ok h
  obtain ⟨found, s₁, hfound, h⟩ := Exchange.exists_of_bind_ok h
  obtain ⟨p, hp, hrun⟩ := Exchange.exists_of_lift_bind_ok hfound
  cases h
  exact ⟨connection, d, p, found, ⟨hconnected, hspoken, q, hq, hp⟩, hrun, rfl⟩

theorem serve_of_faulty {places : List Location}
    (hform : formOf v QueryForm.read = .faulty places) :
    g.serve env server names "/read" v s = (.invalid places, s) := by
  rw [serve, hform]
  · rfl
  all_goals decide

theorem serve_of_ok (hform : formOf v QueryForm.read = .valid f)
    (hread : g.read env server names f s = (.ok result, s')) :
    g.serve env server names "/read" v s = (.done result, s') := by
  rw [serve, hform]
  · show StateT.bind (g.read env server names f) _ s = _
    rw [StateT.bind, hread]
    rfl
  all_goals decide

theorem serve_of_error {e : Error} (hform : formOf v QueryForm.read = .valid f)
    (hread : g.read env server names f s = (.error e, s')) :
    g.serve env server names "/read" v s = (readFault e, s') := by
  rw [serve, hform]
  · show StateT.bind (g.read env server names f) _ s = _
    rw [StateT.bind, hread]
    rfl
  all_goals decide

theorem readFault_ne_done (e : Error) : readFault e ≠ .done result := by
  unfold readFault Answer.ofError
  split
  · exact nofun
  · split_ifs <;> exact nofun

/-- A form that is posted to be read is answered with what its read gives. -/
theorem exists_read_of_done (hpath : routePath v.path = "/read")
    (h : g.handle env server names v s = (.done result, s')) :
    ∃ f, formOf v QueryForm.read = .valid f ∧ g.read env server names f s = (.ok result, s') := by
  unfold handle at h
  rw [hpath, show routes.lookup "/read" = some ("POST", true) from rfl] at h
  dsimp only at h
  split_ifs at h
  · cases h
  · cases h
  cases hform : formOf v QueryForm.read with
  | faulty places =>
    rw [serve_of_faulty hform] at h
    cases h
  | valid f =>
    rcases hread : g.read env server names f s with ⟨e | row, s₁⟩
    · rw [serve_of_error hform hread] at h
      exact absurd (congrArg Prod.fst h) (readFault_ne_done e)
    · rw [serve_of_ok hform hread] at h
      cases h
      exact ⟨f, rfl, hread⟩

/-- A page has no more rows than the largest page of the gateway, unless the service is to cut the
window, no row beyond the limit is read, and the service hands over more. -/
theorem read_bounded_iff (hmax : 1 ≤ g.maxLimit) (hpath : routePath v.path = "/read")
    (h : g.handle env server names v s = (.done result, s')) :
    ∃ f connection d p rows, formOf v QueryForm.read = .valid f ∧ g.Runs env f connection d p ∧
      result.get? "rows" = some (.list rows) ∧
      ((rows.length : Int) ≤ g.maxLimit ↔
        (p.pagesRemotely d = .ok true → d ≠ .graphql →
          ((p.grouped (p.receivedRows d
            (Session.transport server connection.config names) s)).length : Int) ≤
              g.maxLimit)) := by
  obtain ⟨f, hform, hread⟩ := exists_read_of_done hpath h
  obtain ⟨connection, d, p, found, hruns, hrun, hrows⟩ := exists_run_of_read hread
  refine ⟨f, connection, d, p, _, hform, hruns, hrows, ?_⟩
  obtain ⟨q, hq, hp⟩ := hruns.divided
  have hlimit : p.query.limit = g.pageLimit f.limit := by
    rw [(Plan.query_window_eq hp).2, QueryForm.limit_query hq]
  have hform' : 0 ≤ f.limit := by
    unfold formOf at hform
    split at hform
    · cases hform
    · exact QueryForm.limit_nonneg hform
  obtain ⟨hpos, hle⟩ := pageLimit_mem hmax hform'
  rw [← hlimit] at hpos hle
  rw [List.length_map]
  exact Plan.length_rows_le_iff hpos hle hrun

def ordersEnvironment : Environment := [("URLQUERY_BASE_URL", "https://back.test/odata")]

def ordersService : Server Unit := fun _ _ =>
  let orders : List Value := [.map [("OrderID", .int 1)], .map [("OrderID", .int 2)]]
  let page : Value := .map [("d", .map [("__count", .str "2"), ("results", .list orders)])]
  ({ text := Json.write Json.compact page }, ())

def ordersVisit : Visit where
  method := "POST"
  path := "/read"
  headers := [("x-api-key", "secret")]
  form := some (.map [])

def ordersNames (_ : Nat) : String := ""

/-- The answer of a gateway to a read of all orders, and the session after it. -/
def ordersAnswer (maxLimit : Int) : Answer × Session Unit :=
  handle ⟨"secret", maxLimit⟩ ordersEnvironment ordersService ordersNames ordersVisit
    { service := () }

def orderRows (ids : List Int) : List Value :=
  ids.map fun n => .map [("OrderID", .int n), ("Status", .null), ("Customer", .null)]

theorem read_bounded_orders : ∃ result s' f connection d p,
    ordersAnswer 2 = (.done result, s') ∧ result.get? "rows" = some (.list (orderRows [1, 2])) ∧
    Runs ⟨"secret", 2⟩ ordersEnvironment f connection d p ∧
    (p.pagesRemotely d = .ok true → d ≠ .graphql → ((p.grouped (p.receivedRows d
      (Session.transport ordersService connection.config ordersNames)
      { service := () })).length : Int) ≤ 2) := by
  have hrows : (ordersAnswer 2).1.rows? = some (orderRows [1, 2]) := by decide +kernel
  obtain ⟨result, hanswer, hresult⟩ := Answer.rows?_eq_some_iff.1 hrows
  rcases h : ordersAnswer 2 with ⟨answer, s'⟩
  rw [h] at hanswer
  subst hanswer
  have hmax : 1 ≤ (⟨"secret", 2⟩ : Gateway).maxLimit := by decide
  have hpath : routePath ordersVisit.path = "/read" := by decide +kernel
  obtain ⟨f, connection, d, p, rows, -, hruns, hgiven, hiff⟩ := read_bounded_iff hmax hpath h
  cases hresult.symm.trans hgiven
  have hshort : ((orderRows [1, 2]).length : Int) ≤ 2 := by decide
  exact ⟨result, s', f, connection, d, p, rfl, hresult, hruns, hiff.1 hshort⟩

/-- The answer has more rows than the largest page. -/
theorem ordersAnswer_unbounded : (ordersAnswer 1).1.rows? = some (orderRows [1, 2]) ∧
    1 < (orderRows [1, 2]).length := by
  decide +kernel

end Gateway

end EntityQuery
