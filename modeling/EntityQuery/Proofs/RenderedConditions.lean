import EntityQuery.Proofs.ArgumentConditions
import EntityQuery.Proofs.ConsumedConditions
import EntityQuery.Proofs.ExpressionTrace
import EntityQuery.Proofs.ItemPlan

/-!
# What is decided remote is sent

A condition can be sent if it has a parameter, a field or an argument of its own, or an address of
its own. The endpoint consumes addresses only at the top of a conjunction, and what it does not
consume is left to the parameters (`Plan.unconsumed`). These say a condition exactly if it has a
place among them (`Group.renders_iff`): a condition with nothing but an address has none, and of two
conditions over one argument that are not of the same text only one has. An expression fails where a
condition has no field (`Group.parameters_eq_error`).
-/

namespace EntityQuery

open Url

namespace FilterStyle

/-- The parameter of an expression says conditions: it holds a predicate for each in order, over the
field of the condition. There is none for no conditions. -/
def RendersExpression (t : FilterStyle) (cs : List Condition) (params : Params) : Prop :=
  cs = [] ∧ params = [] ∨ ∃ ts texts, params = [("$filter", some (Token.print ts))] ∧
    Token.predicates ts = texts.zipIdx ∧ List.Forall₂ (fun c s => ∃ field,
      t.remoteParameter? c = some field ∧ c.simplify.SaysOver t field s) cs texts

/-- Parameters say conditions: there is one for each in order, or an argument under the name of
each, or an expression. -/
def Renders (t : FilterStyle) (cs : List Condition) (params : Params) : Prop :=
  match t with
  | .urlParameters => List.Forall₂ (fun c param => ∃ name text, t.remoteParameter? c = some name ∧
      c.parameterValue t = .ok text ∧ param = (name, some text)) cs params
  | .arguments => ∀ c ∈ cs, ∃ name, t.remoteParameter? c = some name ∧
      params.lookup name = some (some c.value.text)
  | .odata2 | .odata4 => t.RendersExpression cs params

/-- A condition has a parameter, field or argument that no other condition takes from it. -/
def HasPlace (t : FilterStyle) (cs : List Condition) (c : Condition) : Prop :=
  ∃ name, t.remoteParameter? c = some name ∧
    (t = .arguments → ∀ c' ∈ cs, t.remoteParameter? c' = some name → c'.value.text = c.value.text)

end FilterStyle

namespace Condition

variable {t : FilterStyle} {c : Condition} {name : String}

theorem exists_of_parameter?_eq_ok (hname : t.remoteParameter? c = some name)
    {param : Option (String × Option String)} (h : c.parameter? t = .ok param) :
    ∃ text, c.parameterValue t = .ok text ∧ param = some (name, some text) := by
  rw [parameter?, hname] at h
  obtain ⟨text, htext, h⟩ := Except.bind_eq_ok_iff.1 h
  cases h
  exact ⟨text, htext, rfl⟩

theorem isValueFault_of_parameter? {e : Error} (h : c.parameter? t = .error e) :
    e.IsValueFault := by
  rw [parameter?] at h
  split at h
  · cases h
  rcases Except.bind_eq_error_iff.1 h with h | ⟨text, -, h⟩
  · rw [parameterValue] at h
    split at h
    · rcases Except.bind_eq_error_iff.1 h with h | ⟨values, -, h⟩
      · exact isValueFault_of_values h
      rcases Except.bind_eq_error_iff.1 h with h | ⟨literals, -, h⟩
      · obtain ⟨v, -, hv⟩ := List.exists_of_mapM_eq_error h
        exact isValueFault_of_literal hv
      · cases h
    · rcases Except.bind_eq_error_iff.1 h with h | ⟨literal, -, h⟩
      · exact isValueFault_of_literal h
      · cases h
  · cases h

end Condition

/-- Only the last argument under a name is left, with the text of its value. -/
theorem Row.lookup_texts (row : Row) (name : String) :
    List.lookup name (row.map fun e => (e.1, some e.2.text)) =
      (row.get? name).map fun v => some v.text := by
  rw [Row.get?]
  induction row with
  | nil => rfl
  | cons e row ih =>
    rw [List.map_cons, List.lookup_cons, List.lookup_cons]
    cases name == e.1 with
    | true => rfl
    | false => exact ih

namespace Group

variable {t : FilterStyle} {g : Group} {params : Params}

theorem renders_urlParameters_iff (h : g.parameters .urlParameters = .ok params) :
    FilterStyle.urlParameters.Renders g.leaves params ↔
      ∀ c ∈ g.leaves, FilterStyle.urlParameters.HasPlace g.leaves c := by
  obtain ⟨found, hfound, h⟩ := Except.bind_eq_ok_iff.1 h
  cases h
  rw [List.mapM_eq_ok_iff] at hfound
  constructor
  · intro hrenders c hc
    obtain ⟨param, name, -, hname, -⟩ := List.Forall₂.exists_of_mem hrenders hc
    exact ⟨name, hname, nofun⟩
  · intro hplaces
    have hnames (c : Condition) (hc : c ∈ g.leaves) :
        ∃ name, FilterStyle.urlParameters.remoteParameter? c = some name :=
      (hplaces c hc).imp fun name h => h.1
    clear h hplaces
    show List.Forall₂ _ g.leaves _
    generalize g.leaves = cs at hfound hnames ⊢
    induction hfound with
    | nil => exact .nil
    | cons hone _ ih =>
      rw [List.forall_mem_cons] at hnames
      obtain ⟨⟨name, hname⟩, hrest⟩ := hnames
      obtain ⟨text, htext, rfl⟩ := Condition.exists_of_parameter?_eq_ok hname hone
      exact .cons ⟨name, text, hname, htext, rfl⟩ (ih hrest)

theorem renders_arguments_iff (h : g.parameters .arguments = .ok params) :
    FilterStyle.arguments.Renders g.leaves params ↔
      ∀ c ∈ g.leaves, FilterStyle.arguments.HasPlace g.leaves c := by
  cases h
  constructor
  · intro hrenders c hc
    obtain ⟨name, hname, htext⟩ := hrenders c hc
    refine ⟨name, hname, fun _ c' hc' hname' => ?_⟩
    obtain ⟨name', hsame, htext'⟩ := hrenders c' hc'
    cases hname'.symm.trans hsame
    rw [htext] at htext'
    exact (Option.some.inj (Option.some.inj htext')).symm
  · intro hplaces c hc
    obtain ⟨name, hname, hown⟩ := hplaces c hc
    refine ⟨name, hname, ?_⟩
    have hput : (name, c.value) ∈ g.leaves.filterMap fun c =>
        (FilterStyle.arguments.remoteParameter? c).map fun p => (p, c.value) :=
      List.mem_filterMap.2 ⟨c, hc, by rw [hname]; rfl⟩
    obtain ⟨v, hv⟩ := Row.exists_get?_ofEntries hput
    obtain ⟨c', hc', hlast⟩ := List.mem_filterMap.1 (Row.mem_of_get?_ofEntries hv)
    obtain ⟨name', hname', hlast⟩ := Option.map_eq_some_iff.1 hlast
    cases hlast
    rw [Row.lookup_texts, arguments, hv, ← hown rfl c' hc' hname']
    rfl

theorem rendersExpression_of_parameters (ht : t.supportsGroups = true)
    (h : g.parameters t = .ok params) (heffect : ∀ c ∈ g.leaves, c.HasEffect) :
    t.RendersExpression g.leaves params := by
  obtain ⟨x, hx, rfl⟩ := Group.exists_expression_of_parameters ht h
  have htexts := (Group.traces_of_expression? hx).texts
  have hall : g.leaves.filter (!·.isSilent t) = g.leaves := by
    refine List.filter_eq_self.2 fun c hc => ?_
    rw [Bool.not_eq_true', ← Bool.not_eq_true]
    exact fun hsilent => Condition.not_hasEffect_of_isSilent hsilent (heffect c hc)
  rw [hall] at htexts
  cases x with
  | none => exact .inl ⟨List.forall₂_nil_right_iff.1 htexts, rfl⟩
  | some chain =>
    rw [Option.toList_some, Chain.memberLeaves, Chain.memberLeaves, List.append_nil] at htexts
    refine .inr ⟨_, _, ?_, chain.predicates_tokensFrom 0,
      htexts.imp fun c s hs => Condition.saysOver_of_predicate? ht hs⟩
    rw [chain.print_tokensFrom]
    rfl

/-- What is sent for a group says its conditions exactly if each has a place. -/
theorem renders_iff (h : g.parameters t = .ok params) (heffect : ∀ c ∈ g.leaves, c.HasEffect) :
    t.Renders g.leaves params ↔ ∀ c ∈ g.leaves, t.HasPlace g.leaves c := by
  cases t with
  | urlParameters => exact renders_urlParameters_iff h
  | arguments => exact renders_arguments_iff h
  | odata2 | odata4 =>
    have hrenders := rendersExpression_of_parameters rfl h heffect
    refine iff_of_true hrenders fun c hc => ?_
    rcases hrenders with ⟨hnil, -⟩ | ⟨ts, texts, -, -, hpredicates⟩
    · rw [hnil] at hc
      cases hc
    · obtain ⟨s, field, hfield, -⟩ := List.Forall₂.exists_of_mem hpredicates hc
      exact ⟨field, hfield, nofun⟩

theorem parameters_eq_error {e : Error} (h : g.parameters t = .error e)
    (hsend : g.sendable t = .ok true) :
    e.IsValueFault ∨ ∃ c ∈ g.leaves, t.remoteParameter? c = none ∧
      e = .query (.unsendable c.simplify.shown) := by
  cases t with
  | urlParameters =>
    rcases Except.bind_eq_error_iff.1 h with h | ⟨found, -, h⟩
    · obtain ⟨c, -, hc⟩ := List.exists_of_mapM_eq_error h
      exact .inl (Condition.isValueFault_of_parameter? hc)
    · cases h
  | arguments => cases h
  | odata2 | odata4 =>
    rcases Except.bind_eq_error_iff.1 h with h | ⟨x, -, h⟩
    · rcases Group.expression?_eq_error h with ⟨c, hc, hp⟩ | hxor
      · exact (Condition.predicate?_eq_error rfl hp).imp_right fun hfield => ⟨c, hc, hfield⟩
      · exact absurd hxor (Group.xor_notMem_of_sendable rfl hsend)
    · cases x <;> cases h

end Group

theorem ownAddresses_subset {t : FilterStyle} {url : Option String} {e : String × List Located}
    {ls consumed : List Located} {complete : Bool} {address : String}
    (h : ownAddresses t url e ls = .ok (complete, address, consumed)) : consumed ⊆ e.2 ++ ls := by
  induction ls generalizing url e with
  | nil =>
    cases h
    exact List.subset_append_left _ _
  | cons l ls ih =>
    have hput : (e.2 ++ [l]) ++ ls = e.2 ++ l :: ls := by simp
    rw [ownAddresses] at h
    split at h
    · split at h
      · cases h
      obtain ⟨text, -, h⟩ := Except.bind_eq_ok_iff.1 h
      cases text with
      | some text => exact hput ▸ ih h
      | none =>
        simp only at h
        split at h
        · cases h
          exact List.subset_append_left _ _
        · exact hput ▸ ih h
    · exact fun l' hl' => (List.mem_append.1 (ih h hl')).elim (List.mem_append_left _)
        fun hl' => List.mem_append_right _ (List.mem_cons_of_mem _ hl')

namespace Plan

variable {d : Dialect} {q : Query} {p : Plan} {e : Endpoint}

/-- The endpoint consumes conditions that every row must meet. -/
theorem consumed_subset (he : p.endpoint d = .ok e) : e.consumed ⊆ p.topLevel := by
  obtain ⟨item, complete, start, hitem, hown, -⟩ := exists_ownAddresses he
  have hstart : item.toList ⊆ p.topLevel := by
    intro l hl
    rw [Option.mem_toList] at hl
    obtain ⟨_, _, -, -, hfirst⟩ := itemCondition?_eq_some_iff.1 (hitem.trans (congrArg _ hl))
    exact (of_firstNaming hfirst).1
  exact List.Subset.trans (ownAddresses_subset hown)
    (List.append_subset.2 ⟨hstart, List.Subset.refl _⟩)

/-- What is left to be sent in parameters. -/
def unconsumed (p : Plan) (e : Endpoint) : Group := p.remote.without (sentIndices e.consumed)

theorem exists_of_mem_sentIndices (he : p.endpoint d = .ok e) :
    ∀ i ∈ sentIndices e.consumed, ∃ c, (i, c) ∈ p.remote.topLevel := by
  intro i hi
  obtain ⟨⟨place, c⟩, hl, hplace⟩ := List.mem_filterMap.1 hi
  cases place with
  | locally j => cases hplace
  | remote j =>
    cases hplace
    refine ⟨c, ?_⟩
    simpa [topLevel] using consumed_subset he hl

theorem sendable_unconsumed (hp : Plan.of d q = .ok p) (he : p.endpoint d = .ok e) :
    (p.unconsumed e).sendable d.filterStyle = .ok true := by
  obtain ⟨filters, hsplit, hremote, -⟩ := Plan.of_eq_ok hp
  have hsend : p.remote.sendable d.filterStyle = .ok true :=
    hremote ▸ Group.sendable_remote hsplit
  rw [unconsumed]
  rcases Group.without_cases (exists_of_mem_sentIndices he) with ⟨-, hsame⟩ |
    ⟨fs, gs, hg, -, hleft⟩
  · rwa [hsame]
  · rw [hg] at hsend
    obtain ⟨-, hfs, hgs⟩ := Group.members_of_sendable hsend
    rw [hleft]
    refine Group.sendable_and (filtersSendable_iff.2 fun f hf => ?_) hgs
    exact filtersSendable_iff.1 hfs f ((Group.keepFilters_sublist _ _ _).subset hf)

end Plan

/-- What is sent and not consumed by the endpoint is said by the parameters exactly if each of its
conditions has a place there, which all have but those with nothing but an address of their own and
those whose argument another condition takes. Parameters fail for a value, or for a condition
without a field; never for an operator. -/
theorem unconsumed_rendered_iff {d : Dialect} {q : Query} {p : Plan} {e : Endpoint}
    (hp : Plan.of d q = .ok p) (he : p.endpoint d = .ok e)
    (heffect : ∀ c ∈ q.filters.leaves, c.HasEffect) :
    (p.unconsumed e).leaves = keptFrom (· ∈ Plan.sentIndices e.consumed) 0 p.remote.leaves ∧
      (∀ c ∈ (p.unconsumed e).leaves, d.filterStyle.remoteParameter? c = none →
        d.filterStyle.hasEndpoint c = true) ∧
      (∀ params, (p.unconsumed e).parameters d.filterStyle = .ok params →
        (d.filterStyle.Renders (p.unconsumed e).leaves params ↔
          ∀ c ∈ (p.unconsumed e).leaves, d.filterStyle.HasPlace (p.unconsumed e).leaves c)) ∧
      ∀ error, (p.unconsumed e).parameters d.filterStyle = .error error → error.IsValueFault ∨
        ∃ c ∈ (p.unconsumed e).leaves, d.filterStyle.remoteParameter? c = none ∧
          error = .query (.unsendable c.simplify.shown) := by
  obtain ⟨filters, hsplit, hremote, -⟩ := Plan.of_eq_ok hp
  have hsend := Plan.sendable_unconsumed hp he
  have hleaves : (p.unconsumed e).leaves =
      keptFrom (· ∈ Plan.sentIndices e.consumed) 0 p.remote.leaves :=
    Group.leaves_without (Plan.exists_of_mem_sentIndices he)
  have hsent : ∀ c ∈ (p.unconsumed e).leaves, c.HasEffect := by
    intro c hc
    rw [hleaves, hremote] at hc
    exact ((forall_leaves_split Condition.hasEffect_markLocal hsplit).1 heffect).1 c
      (keptFrom_subset _ _ hc)
  refine ⟨hleaves, fun c hc hnone => ?_, fun params h => Group.renders_iff h hsent,
    fun error h => Group.parameters_eq_error h hsend⟩
  have hcan := Group.canSend_of_sendable _ hsend c hc
  rwa [FilterStyle.canSend, hnone, Option.isSome_none, Bool.or_false] at hcan

/-- Items with an owner, and a total that is computed and can be read by an address of its own. -/
def ledgerItems : Entity where
  name := "items"
  dataAddress := "items"
  attributes :=
    [{ name := "owner", dataAddress := "owner", options := { filterRemote := some true } },
      { name := "total", dataAddress := "=Sum(x)"
        options := { filterRemoteUrl := some "totals/[#value#]" } }]

def ledgerTest (name : String) (value : Value) : Condition where
  target := ((ledgerItems.getAttribute? name).map Target.attribute).getD (.address name)
  value := value

/-- The plan of a read of such items whose conditions are all sent. -/
def ledgerPlan (g : Group) : Plan where
  query := { entity := ledgerItems, filters := g }
  remote := g

/-- The total goes into the address, and the owner is left to the parameters. -/
theorem unconsumed_rendered_ledger :
    let p := ledgerPlan (Group.all [ledgerTest "total" (.int 5), ledgerTest "owner" (.str "ann")])
    Plan.of .json p.query = .ok p ∧ ∃ e, p.endpoint .json = .ok e ∧
      (p.unconsumed e).leaves = [ledgerTest "owner" (.str "ann")] ∧
      FilterStyle.urlParameters.Renders (p.unconsumed e).leaves [("owner", some "ann")] := by
  intro p
  have hp : Plan.of .json p.query = .ok p := rfl
  have hr : p.readRequest? .json = .ok (some (.withParams "GET" "totals/5"
      [("owner", some "ann")] [])) := by decide +kernel
  rcases Plan.readRequest?_cases (by decide) hr with ⟨-, h⟩ | ⟨-, -, -, h⟩ |
    ⟨e, address, params, he, ha, hparams, h⟩
  · cases h
  · cases h
  obtain ⟨item, own, hitem, hconsumed, -⟩ := Plan.exists_consumed he ha
  cases hitem.symm.trans (show p.itemCondition? = .ok none from rfl)
  have hone : e.consumed = [(.remote 0, ledgerTest "total" (.int 5))] := hconsumed.trans rfl
  have hleaves : (p.unconsumed e).leaves = [ledgerTest "owner" (.str "ann")] := by
    rw [Plan.unconsumed, hone]
    rfl
  have heffect : ∀ c ∈ p.query.filters.leaves, c.HasEffect := by
    rw [show p.query.filters.leaves = [_, _] from rfl, List.forall_mem_cons,
      List.forall_mem_singleton]
    exact ⟨Condition.hasEffect_of_equals rfl, Condition.hasEffect_of_equals rfl⟩
  obtain ⟨-, -, hrenders, -⟩ := unconsumed_rendered_iff hp he heffect
  refine ⟨hp, e, he, hleaves, (hrenders _ ?_).2 ?_⟩
  · rw [Plan.unconsumed, hone]
    decide +kernel
  · rw [hleaves, List.forall_mem_singleton]
    exact ⟨"owner", rfl, nofun⟩

/-- Among alternatives the endpoint consumes nothing. A total there counts as sent, and is neither
said by the parameters nor left for evaluation after reading; an expression fails. -/
theorem unconsumed_skipped :
    let c := ledgerTest "total" (.int 5)
    let p := ledgerPlan (.mk .or [.condition c] [])
    c.HasEffect ∧ Plan.of .json p.query = .ok p ∧ Plan.of .odata2 p.query = .ok p ∧
      ∃ e, p.endpoint .json = .ok e ∧ p.endpoint .odata2 = .ok e ∧ (p.unconsumed e).leaves = [c] ∧
        (p.unconsumed e).parameters .urlParameters = .ok [] ∧
        ¬FilterStyle.urlParameters.Renders (p.unconsumed e).leaves [] ∧
        (p.unconsumed e).parameters .odata2 =
          .error (.query (.unsendable "total EQUALS 5")) := by
  intro c p
  have hnone : Text.placeholders "items" = [] := by decide +kernel
  have hfilled : Text.fillPlaceholders? (fun _ => none) "items" = some "items" := by decide +kernel
  have he (d : Dialect) : p.endpoint d = .ok ⟨some "items", []⟩ :=
    Plan.endpoint_of_noPlaceholder rfl (List.forall_mem_nil _) hnone hfilled
  refine ⟨Condition.hasEffect_of_equals rfl, rfl, rfl, _, he .json, he .odata2, rfl, ?_, ?_, ?_⟩
  · decide +kernel
  · rintro ⟨⟩
  · decide +kernel

end EntityQuery
