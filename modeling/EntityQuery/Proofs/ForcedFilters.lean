import EntityQuery.Proofs.ExpressionTrace
import EntityQuery.Proofs.LeafNumber
import EntityQuery.Proofs.ReadAddress
import EntityQuery.Proofs.TableQuery

/-!
# Reads that ask for filters

An entity that asks for filters is not read without any (`Plan.lacksFilters`). What counts there is
whether the query has a member; whether an OData request has a filter depends on whether a condition
has an effect (`Group.mem_names_parameters_iff`). So a request whose address consumes no condition
has a filter exactly if some condition of the query has an effect, or if a parameter of the address
or of the window has its name (`readRequest_filtered_iff`). Membership in no values and a filter
without conditions are members without an effect.
-/

namespace EntityQuery

open Url

/-- The names of the parameters of a request. -/
def Request.paramNames (r : Request) : List String := r.params.map Prod.fst

namespace Dialect

variable {d : Dialect} (hd : d.isOData = true)

include hd

theorem ne_graphql_of_isOData : d ≠ .graphql := by
  rintro rfl
  cases hd

theorem supportsGroups_of_isOData : d.filterStyle.supportsGroups = true := by
  cases d <;> first | rfl | cases hd

theorem eq_of_mem_names_sorters {sorters : List Sorter} {name : String}
    (h : name ∈ (d.sortStyle.parameters sorters).map Prod.fst) : name = "$orderby" := by
  rw [sortStyle, if_pos hd, SortStyle.parameters] at h
  split at h
  · cases h
  · exact List.mem_singleton.1 h

omit hd in
theorem eq_of_mem_names_readParams {name : String} (h : name ∈ d.readParams.map Prod.fst) :
    name = "$format" := by
  cases d <;> first | exact List.mem_singleton.1 h | cases h

end Dialect

/-- Exactly the groups with a condition that has an effect are sent as a filter. -/
theorem Group.mem_names_parameters_iff {t : FilterStyle} (ht : t.supportsGroups = true) {g : Group}
    {params : Params} (h : g.parameters t = .ok params) :
    "$filter" ∈ params.map Prod.fst ↔ ∃ c ∈ g.leaves, c.HasEffect := by
  obtain ⟨x, hx, rfl⟩ := Group.exists_expression_of_parameters ht h
  rw [← Group.isSome_expression?_iff hx]
  cases x <;> simp

namespace Plan

variable {d : Dialect} {p : Plan}

theorem names_of_mem_projection {projection : Params} (h : p.projection d = .ok projection)
    {name : String} (hname : name ∈ projection.map Prod.fst) :
    d.selectParam? = some name ∨ d.expandParam? = some name := by
  have hlist {key : String} {items : List String} {text : String} (hmem : name ∈
      (if items.isEmpty then [] else [(key, some text)] : Params).map Prod.fst) : key = name := by
    split at hmem
    · cases hmem
    · exact (List.mem_singleton.1 hmem).symm
  rw [Plan.projection] at h
  cases hselect : d.selectParam? with
  | none =>
    rw [hselect] at h
    cases h
    cases hname
  | some select =>
    rw [hselect] at h
    simp only at h
    split at h
    · cases h
      cases hname
    obtain ⟨attributes, -, h⟩ := Except.bind_eq_ok_iff.1 h
    cases h
    rw [List.map_append, List.mem_append] at hname
    rcases hname with hname | hname
    · exact .inl (congrArg some (hlist hname))
    · cases hexpand : d.expandParam? with
      | none =>
        rw [hexpand] at hname
        cases hname
      | some expand =>
        rw [hexpand] at hname
        exact .inr (congrArg some (hlist hname))

/-- Whether a parameter that stands in the address or asks for the window is named as a filter. -/
def NamesFilter (p : Plan) (d : Dialect) (address : String) : Prop :=
  "$filter" ∈ (parseQuery (queryOf address)).map Prod.fst ∨
    p.pagesRemotely d = .ok true ∧
      "$filter" ∈ (d.windowParams p.options p.query.offset p.query.limit).map Prod.fst

theorem mem_paramNames_iff (hd : d.isOData = true) {r : Request}
    (hr : p.readRequest? d = .ok (some r)) :
    ∃ e address, p.endpoint d = .ok e ∧ e.address = some address ∧
      ("$filter" ∈ r.paramNames ↔
        (∃ c ∈ (p.remote.without (sentIndices e.consumed)).leaves, c.HasEffect) ∨
          p.NamesFilter d address) := by
  obtain ⟨e, address, filters, remotely, projection, he, ha, hfilters, hremotely, hprojection,
    hparams⟩ := exists_params_of_readRequest? (Dialect.ne_graphql_of_isOData hd) hr
  refine ⟨e, address, he, ha, ?_⟩
  rw [Request.paramNames, hparams, NamesFilter, hremotely,
    ← Group.mem_names_parameters_iff (Dialect.supportsGroups_of_isOData hd) hfilters]
  have hsorters : "$filter" ∉ (d.sortStyle.parameters p.sorters).map Prod.fst := fun h =>
    absurd (Dialect.eq_of_mem_names_sorters hd h) (by decide)
  have hprojection : "$filter" ∉ projection.map Prod.fst := by
    intro hname
    rcases names_of_mem_projection hprojection hname with h | h <;> cases d <;> cases hd <;>
      simp [Dialect.selectParam?, Dialect.expandParam?, Dialect.isOData] at h
  have hread : "$filter" ∉ d.readParams.map Prod.fst := fun h =>
    absurd (Dialect.eq_of_mem_names_readParams h) (by decide)
  have hwindow (window : Params) : "$filter" ∈ (if remotely then window else []).map Prod.fst ↔
      remotely = true ∧ "$filter" ∈ window.map Prod.fst := by
    cases remotely <;> simp
  simp only [List.map_append, List.mem_append, hsorters, hprojection, hread, or_false, hwindow,
    Except.ok.injEq]
  rw [or_left_comm]

end Plan

/-- A read of an entity that asks for filters, with nothing left for later, sends a member of the
query. It has a filter or consumes a condition exactly if some condition of the query has an effect,
a parameter of the address or of the window is named as a filter, or a condition is consumed. -/
theorem readRequest_filtered_iff {d : Dialect} {q : Query} {p : Plan} {r : Request}
    (hd : d.isOData = true) (hp : Plan.of d q = .ok p)
    (hforce : q.entity.options.forceFiltering = true) (hlocal : p.localFilters.isEmpty = true)
    (hr : p.readRequest? d = .ok (some r)) :
    p.remote.isEmpty = false ∧ ∃ e address, p.endpoint d = .ok e ∧ e.address = some address ∧
      ("$filter" ∈ r.paramNames ∨ e.consumed ≠ [] ↔
        (∃ c ∈ q.filters.leaves, c.HasEffect) ∨ p.NamesFilter d address ∨ e.consumed ≠ []) := by
  obtain ⟨filters, hsplit, hremote, hlater, -, -, attributes, hquery⟩ := Plan.of_eq_ok hp
  obtain ⟨e, address, he, ha, hnamed⟩ := p.mem_paramNames_iff hd hr
  refine ⟨?_, e, address, he, ha, ?_⟩
  · have hlacks := Plan.lacksFilters_of_readRequest? hr
    have hoptions : p.options = q.entity.options := by rw [Plan.options, hquery]
    rwa [Plan.lacksFilters, hoptions, hforce, hlocal, Bool.and_true, Bool.true_and] at hlacks
  by_cases hconsumed : e.consumed = []
  · have hleaves : (∃ c ∈ q.filters.leaves, c.HasEffect) ↔ ∃ c ∈ p.remote.leaves, c.HasEffect := by
      have hparts := forall_leaves_split (P := fun c => ¬c.HasEffect)
        (fun c => not_congr (Condition.hasEffect_markLocal c)) hsplit
      rw [← hremote, ← hlater, Group.leaves_of_isEmpty _ hlocal] at hparts
      simp only [List.not_mem_nil, false_imp_iff, implies_true, and_true] at hparts
      simpa using not_congr hparts
    have hsame : p.remote.without (Plan.sentIndices e.consumed) = p.remote := by
      rw [hconsumed]
      exact Group.without_nil _
    rw [hnamed, hsame, hleaves]
    simp only [hconsumed, ne_eq, not_true_eq_false, or_false]
  · simp only [hconsumed, ne_eq, not_false_eq_true, or_true]

/-- Items that are only read with filters. -/
def guardedItems : Entity where
  name := "items"
  dataAddress := "items"
  attributes := [{ name := "s", dataAddress := "s" }]
  options := { forceFiltering := true }

def guardedTest (comparator : Comparator) (value : Value) : Filter :=
  .condition
    { target := .attribute { name := "s", dataAddress := "s" }
      comparator := comparator
      value := value }

/-- The plan of a read of such items, whose filters are all sent. -/
def guardedPlan (filters : List Filter) : Plan where
  query := { entity := guardedItems, filters := .mk .and filters [] }
  remote := .mk .and filters []

theorem endpoint_guardedPlan {filters : List Filter}
    (h : ∀ c ∈ (guardedPlan filters).remote.leaves, c.options = {}) :
    (guardedPlan filters).endpoint .odata2 = .ok ⟨some "items", []⟩ := by
  have hnone : Text.placeholders "items" = [] := by decide +kernel
  have hfilled : Text.fillPlaceholders? (fun _ => none) "items" = some "items" := by decide +kernel
  refine Plan.endpoint_of_noPlaceholder rfl (fun l hl => ?_) hnone hfilled
  rcases List.mem_append.1 hl with hl | hl
  · obtain ⟨⟨i, c⟩, htop, rfl⟩ := List.mem_map.1 hl
    have hc := Group.mem_leaves_of_mem_topLevel htop
    exact .inl (congrArg (fun o => nonEmpty? o.filterRemoteUrl) (h c hc))
  · cases hl

theorem readRequest_filtered_guardedPlan :
    let p := guardedPlan [guardedTest .isIn (.list []), guardedTest .equals (.str "a")]
    Plan.of .odata2 p.query = .ok p ∧ ∃ r e, p.readRequest? .odata2 = .ok (some r) ∧
      p.endpoint .odata2 = .ok e ∧ ("$filter" ∈ r.paramNames ∨ e.consumed ≠ []) := by
  intro p
  have hp : Plan.of .odata2 p.query = .ok p := rfl
  have hleaves : ∀ c ∈ p.remote.leaves, c.options = {} := by
    rw [show p.remote.leaves = [_, _] from rfl, List.forall_mem_cons, List.forall_mem_singleton]
    exact ⟨rfl, rfl⟩
  have hr := Plan.readRequest?_of_endpoint (d := .odata2) nofun rfl (endpoint_guardedPlan hleaves)
    rfl rfl
  obtain ⟨-, e, address, he, -, hfiltered⟩ := readRequest_filtered_iff rfl hp rfl rfl hr
  exact ⟨hp, _, e, hr, he, hfiltered.2 (.inl ⟨_, List.mem_cons_of_mem _ List.mem_cons_self,
    Condition.hasEffect_of_equals rfl⟩)⟩

/-- Items that are only read with filters are read without one. -/
def ReadsUnfiltered (filters : List Filter) : Prop :=
  let p := guardedPlan filters
  Plan.of .odata2 p.query = .ok p ∧ p.options.forceFiltering = true ∧
    p.localFilters.isEmpty = true ∧ ∃ r e, p.readRequest? .odata2 = .ok (some r) ∧
      p.endpoint .odata2 = .ok e ∧ "$filter" ∉ r.paramNames ∧ e.consumed = []

theorem readRequest_unfiltered :
    ReadsUnfiltered [guardedTest .isIn (.list [])] ∧
      ReadsUnfiltered [.compound (.mk .and [] []) false] := by
  have hreads {filters : List Filter} {params : Params}
      (hplan : Plan.of .odata2 (guardedPlan filters).query = .ok (guardedPlan filters))
      (hlacks : (guardedPlan filters).lacksFilters = false)
      (hleaves : ∀ c ∈ (guardedPlan filters).remote.leaves, c.options = {})
      (hparams : (guardedPlan filters).readParams .odata2 [] = .ok params)
      (hnames : "$filter" ∉ params.map Prod.fst) : ReadsUnfiltered filters := by
    have he := endpoint_guardedPlan hleaves
    refine ⟨hplan, rfl, rfl, _, _,
      Plan.readRequest?_of_endpoint (d := .odata2) nofun hlacks he rfl hparams, he, ?_, rfl⟩
    exact hnames
  exact ⟨hreads rfl rfl (List.forall_mem_singleton.2 rfl) rfl (by decide +kernel),
    hreads rfl rfl (List.forall_mem_nil _) rfl (by decide +kernel)⟩

end EntityQuery
