import EntityQuery.Proofs.EndpointValue
import EntityQuery.Proofs.PageWalk

/-!
# The request for the number of rows

Reads of a query that differ in their window differ in the parameters of the window alone
(`Plan.exists_params_withWindow`, `Plan.exists_readRequest?_withWindow`). Each of these has a name
that the request for the number of rows leaves out (`Dialect.mem_windowNames`), so that one request
counts the rows for all windows (`countRequest?_withWindow`).
-/

namespace EntityQuery

open Text Url

namespace Dialect

variable {d : Dialect} {o : EntityOptions}

theorem fst_of_mem_numberParam {name : Option String} {n : Int} {x : String × Option String}
    (h : x ∈ numberParam name n) : x.1 ∈ name.toList := by
  unfold numberParam at h
  split at h
  · rename_i s hs
    split_ifs at h
    · rw [List.mem_singleton.1 h]
      exact Option.mem_toList.2 (Option.filter_eq_some_iff.1 hs).1
    · cases h
  · cases h

/-- The parameters of a window are left out by name when its rows are counted. -/
theorem mem_windowNames {offset limit : Int} {x : String × Option String}
    (h : x ∈ d.windowParams o offset limit) : x.1 ∈ d.windowNames o := by
  rw [windowNames, List.append_assoc, List.append_assoc]
  rcases List.mem_append.1 h with h | hcount
  · rcases List.mem_append.1 h with hoffset | hlimit
    · exact List.mem_append_left _ (fst_of_mem_numberParam hoffset)
    · exact List.mem_append_right _ (List.mem_append_left _ (fst_of_mem_numberParam hlimit))
  · have hname := List.mem_map_of_mem (f := Prod.fst) hcount
    exact List.mem_append_right _ (List.mem_append_right _ (List.mem_append_right _ hname))

/-- Nothing of a window is left when its rows are counted. -/
theorem filter_windowParams (remotely : Bool) (offset limit : Int) :
    (if remotely then d.windowParams o offset limit else []).filter
      (fun x => x.1 ∉ d.windowNames o) = [] := by
  rw [List.filter_eq_nil_iff]
  intro x hx
  cases remotely with
  | false => cases hx
  | true => simpa using mem_windowNames hx

end Dialect

namespace Plan

variable {d : Dialect} {p : Plan}

/-- The parameters of a read are the same for all windows but for those of the window itself. -/
theorem exists_params_withWindow {consumed : List Located} {params : Params}
    (h : p.readParams d consumed = .ok params) :
    ∃ before after : Params, ∃ remotely : Bool, ∀ offset limit : Int,
      (p.withWindow offset limit).readParams d consumed = .ok (before ++
        (if remotely then d.windowParams p.options offset limit else []) ++ after) := by
  obtain ⟨filters, hfilters, h⟩ := Except.bind_eq_ok_iff.1 h
  obtain ⟨remotely, hremotely, h⟩ := Except.bind_eq_ok_iff.1 h
  obtain ⟨projection, hprojection, h⟩ := Except.bind_eq_ok_iff.1 h
  refine ⟨filters ++ d.sortStyle.parameters p.sorters, projection ++ d.readParams, remotely,
    fun offset limit => ?_⟩
  calc (p.withWindow offset limit).readParams d consumed
      = .ok (filters ++ d.sortStyle.parameters p.sorters ++
          (if remotely then d.windowParams p.options offset limit else []) ++ projection ++
          d.readParams) := (Except.bind_of_ok _ hfilters).trans
        ((Except.bind_of_ok _ hremotely).trans (Except.bind_of_ok _ hprojection))
    _ = _ := by rw [List.append_assoc _ projection]

/-- A query that compiles does so with every window, to the same request but for the parameters of
the window. -/
theorem exists_readRequest?_withWindow (hd : d ≠ .graphql) {r : Request}
    (h : p.readRequest? d = .ok (some r)) :
    ∃ path : String, '?' ∉ path.toList ∧ ∃ before after : Params, ∃ remotely : Bool,
      ∀ offset limit : Int, (p.withWindow offset limit).readRequest? d =
        .ok (some (.withParams "GET" path (before ++
          (if remotely then d.windowParams p.options offset limit else []) ++ after)
          d.readHeaders)) := by
  rcases readRequest?_cases hd h with ⟨-, hr⟩ | ⟨-, -, -, hr⟩ |
    ⟨e, address, params, he, haddress, hparams, -⟩
  · cases hr
  · cases hr
  obtain ⟨before, after, remotely, hwindow⟩ := exists_params_withWindow hparams
  refine ⟨pathOf address, (exists_eq_pathOf address).1, parseQuery (queryOf address) ++ before,
    after, remotely, fun offset limit => ?_⟩
  have hlacks : p.lacksFilters = false := lacksFilters_of_readRequest? h
  have hendpoint : (p.withWindow offset limit).endpoint d = .ok e := he
  rw [readRequest?_of_endpoint (p := p.withWindow offset limit) hd hlacks hendpoint haddress
    (hwindow offset limit)]
  simp only [List.append_assoc]

end Plan

/-- The rows of a query are counted by the same request whatever its window is. Where the query
compiles, it does so with every window, and the request for the number of rows is there. -/
theorem countRequest?_withWindow {d : Dialect} {q : Query} {p : Plan} {r : Request}
    (hd : d.isOData = true) (hp : Plan.of d q = .ok p) (hr : p.readRequest? d = .ok (some r)) :
    ∃ asked : Request, ∀ offset limit : Int, ∃ read : Request,
      Plan.of d (q.withWindow offset limit) = .ok (p.withWindow offset limit) ∧
      (p.withWindow offset limit).readRequest? d = .ok (some read) ∧
      p.countRequest? d read = some asked := by
  have hgraphql : d ≠ .graphql := by
    rintro rfl
    cases hd
  obtain ⟨path, hpath, before, after, remotely, hread⟩ :=
    Plan.exists_readRequest?_withWindow hgraphql hr
  refine ⟨.withParams "GET" (trimEndChar '/' path ++ "/$count")
    ((before ++ after).filter fun x => x.1 ∉ d.windowNames p.options) [("Accept", "text/plain")],
    fun offset limit => ⟨_, Plan.of_withWindow offset limit hp, hread offset limit, ?_⟩⟩
  have hparams (params : Params) :
      (Request.withParams "GET" path params d.readHeaders).params = params := rfl
  rw [Plan.countRequest?, Dialect.countRequest?, if_pos hd, Request.path_withParams hpath, hparams]
  simp only [List.filter_append, Dialect.filter_windowParams, List.append_nil]

def clientItems : Query where
  entity :=
    { name := "items", dataAddress := "Items?size=5&client=100", attributes := [sentId]
      options := { requestOffsetParameter := some "from", requestLimitParameter := some "size" } }
  attributes := ["id"]
  sorters := [{ target := .attribute sentId }]

def clientPlan : Plan := { query := clientItems, sorters := clientItems.sorters }

def clientCount : Request :=
  .withParams "GET" "Items/$count"
    [("client", some "100"), ("$orderby", some "id asc"), ("$select", some "id")]
    [("Accept", "text/plain")]

theorem countRequest?_withWindow_client : Dialect.odata2.isOData = true ∧
    Plan.of .odata2 clientItems = .ok clientPlan ∧
    (∃ r, clientPlan.readRequest? .odata2 = .ok (some r)) ∧
    ∀ offset limit : Int, ∃ read : Request,
      Plan.of .odata2 (clientItems.withWindow offset limit) =
        .ok (clientPlan.withWindow offset limit) ∧
      (clientPlan.withWindow offset limit).readRequest? .odata2 = .ok (some read) ∧
      clientPlan.countRequest? .odata2 read = some clientCount := by
  have hr : clientPlan.readRequest? .odata2 = .ok (some (.withParams "GET" "Items"
      [("size", some "5"), ("client", some "100"), ("$orderby", some "id asc"),
        ("$inlinecount", some "allpages"), ("$select", some "id"), ("$format", some "json")]
      Dialect.odata2.readHeaders)) := by decide +kernel
  have hp : Plan.of .odata2 clientItems = .ok clientPlan := rfl
  obtain ⟨asked, hasked⟩ := countRequest?_withWindow rfl hp hr
  obtain ⟨read, -, hread, hsame⟩ := hasked 0 0
  cases hr.symm.trans hread
  have hcount : some asked = some clientCount := by
    rw [← hsame]
    decide +kernel
  cases hcount
  exact ⟨rfl, hp, ⟨_, hr⟩, hasked⟩

end EntityQuery
