import EntityQuery.Plan.Read
import EntityQuery.Proofs.Outcome
import EntityQuery.Proofs.PlaceholderFilling

/-!
# The address of a read

An address is filled with the values of its placeholders (`Plan.fillAddress?_eq`), adapted, and
sent with the parameters of the plan (`Plan.readRequest?_cases`,
`Plan.exists_params_of_readRequest?`). Where no condition is sent to an address of its own and no
placeholder lacks a value, that is all that becomes of it (`Plan.endpoint_of_filled`). A document
needs no address (`Plan.readRequest?_document_cases`).
-/

namespace EntityQuery

open Text Url

/-- Without conditions that are sent to an address of their own, the address stays. -/
theorem ownAddresses_of_none {t : FilterStyle} {url : Option String} {e : String × List Located}
    {ls : List Located}
    (h : ∀ l ∈ ls, nonEmpty? l.2.options.filterRemoteUrl = none ∨ t.isRemote l.2 = false) :
    ownAddresses t url e ls = .ok (true, e) := by
  induction ls with
  | nil => rfl
  | cons l ls ih =>
    rw [List.forall_mem_cons] at h
    obtain ⟨hnone | hlocal, hrest⟩ := h
    · rw [ownAddresses, hnone]
      exact ih hrest
    · rw [ownAddresses, hlocal]
      cases nonEmpty? l.2.options.filterRemoteUrl <;> exact ih hrest

theorem lookup_map_pair (value : String → Option String) {names : List String} {name : String}
    (h : name ∈ names) : (names.map fun n => (n, value n)).lookup name = some (value name) := by
  induction names with
  | nil => cases h
  | cons n names ih =>
    rw [List.map_cons, List.lookup_cons]
    by_cases hn : name = n
    · rw [hn, beq_self_eq_true]
    · rw [beq_false_of_ne hn]
      exact ih ((List.mem_cons.1 h).resolve_left hn)

/-- The address that is filled in for a read: that of single items where a condition asks for them,
else that of the entity. -/
def Plan.addressFor (p : Plan) (item : Option Located) : String :=
  if item.isSome then p.options.uidRequestDataAddress.getD "" else p.entity.dataAddress

/-- An address is filled with the values of its placeholders. -/
theorem Plan.fillAddress?_eq {p : Plan} {address : String} (value : String → Option String)
    (h : ∀ name ∈ placeholders address, p.placeholderValue? name = .ok (value name)) :
    p.fillAddress? address = .ok (fillPlaceholders? value address) := by
  have hvalues : (placeholders address).mapM (fun name => do
      pure (name, ← p.placeholderValue? name) : String → Except Error (String × Option String)) =
      .ok ((placeholders address).map fun name => (name, value name)) := by
    rw [List.mapM_eq_ok_iff, List.forall₂_map_right_iff, List.forall₂_same]
    intro name hname
    rw [h name hname]
    rfl
  rw [fillAddress?, hvalues]
  show Except.ok _ = _
  refine congrArg Except.ok (fillPlaceholders?_congr fun name hname => ?_)
  rw [lookup_map_pair value hname, Option.join_some]

namespace Plan

variable {d : Dialect} {p : Plan}

/-- Nothing but filling in and adapting is done to an address whose values are all there. -/
theorem endpoint_of_filled {item : Option Located} {value : String → Option String}
    {filled : String} (hitem : p.itemCondition? = .ok item)
    (hown : ∀ l ∈ p.topLevel,
      nonEmpty? l.2.options.filterRemoteUrl = none ∨ d.filterStyle.isRemote l.2 = false)
    (hvalues : ∀ name ∈ placeholders (p.addressFor item),
      p.placeholderValue? name = .ok (value name))
    (hfilled : fillPlaceholders? value (p.addressFor item) = some filled) :
    p.endpoint d = (do pure ⟨some (← adaptAddress p.options filled), item.toList⟩) := by
  have hfill := fillAddress?_eq value hvalues
  rw [hfilled] at hfill
  rw [endpoint, hitem]
  cases item <;>
  · show ownAddresses d.filterStyle none _ p.topLevel >>= _ = _
    rw [Except.bind_of_ok _ (ownAddresses_of_none hown)]
    exact Except.bind_of_ok _ hfill

/-- The address of an entity is only adapted if it has no placeholder. -/
theorem endpoint_of_noPlaceholder {filled : String} (hitem : p.itemCondition? = .ok none)
    (hown : ∀ l ∈ p.topLevel,
      nonEmpty? l.2.options.filterRemoteUrl = none ∨ d.filterStyle.isRemote l.2 = false)
    (hplaces : placeholders p.entity.dataAddress = [])
    (hfilled : fillPlaceholders? (fun _ => none) p.entity.dataAddress = some filled) :
    p.endpoint d = (do pure ⟨some (← adaptAddress p.options filled), []⟩) := by
  refine endpoint_of_filled hitem hown (fun name hname => ?_) hfilled
  rw [show p.addressFor none = p.entity.dataAddress from rfl, hplaces] at hname
  cases hname

theorem readRequest?_eq_urlRequest? (hd : d ≠ .graphql) : p.readRequest? d = p.urlRequest? d := by
  cases d <;> first | rfl | exact absurd rfl hd

theorem readRequest?_of_endpoint (hd : d ≠ .graphql) (hlacks : p.lacksFilters = false)
    {e : Endpoint} {address : String} {params : Params} (he : p.endpoint d = .ok e)
    (ha : e.address = some address) (hparams : p.readParams d e.consumed = .ok params) :
    p.readRequest? d = .ok (some (.withParams "GET" (pathOf address)
      (parseQuery (queryOf address) ++ params) d.readHeaders)) := by
  rw [readRequest?_eq_urlRequest? hd, urlRequest?, hlacks, if_neg Bool.false_ne_true,
    Except.bind_of_ok _ he, ha]
  exact Except.bind_of_ok _ hparams

/-- A read request has the address of the plan and its parameters, behind those of the address.
There is none where filters are asked for and lacking, or where the address has no value. -/
theorem readRequest?_cases (hd : d ≠ .graphql) {r : Option Request}
    (h : p.readRequest? d = .ok r) :
    (p.lacksFilters = true ∧ r = none) ∨
      (∃ e, p.endpoint d = .ok e ∧ e.address = none ∧ r = none) ∨
      ∃ e address params, p.endpoint d = .ok e ∧ e.address = some address ∧
        p.readParams d e.consumed = .ok params ∧
        r = some (.withParams "GET" (pathOf address) (parseQuery (queryOf address) ++ params)
          d.readHeaders) := by
  rw [readRequest?_eq_urlRequest? hd, urlRequest?] at h
  split at h
  · rename_i hlacks
    cases h
    exact .inl ⟨hlacks, rfl⟩
  obtain ⟨e, he, h⟩ := Except.bind_eq_ok_iff.1 h
  cases haddress : e.address with
  | none =>
    rw [haddress] at h
    cases h
    exact .inr (.inl ⟨e, he, haddress, rfl⟩)
  | some address =>
    rw [haddress] at h
    obtain ⟨params, hparams, h⟩ := Except.bind_eq_ok_iff.1 h
    cases h
    exact .inr (.inr ⟨e, address, params, he, haddress, hparams, rfl⟩)

/-- A document has the fields of its attributes and the arguments of its plan. There is none where
filters are asked for and lacking. -/
theorem readRequest?_document_cases {r : Option Request} (h : p.readRequest? .graphql = .ok r) :
    (p.lacksFilters = true ∧ r = none) ∨
      ∃ fields arguments, p.documentArguments .graphql = .ok arguments ∧
        r = some (Graphql.request p.options
          (Graphql.queryDocument (Graphql.readOperation p.entity) fields arguments)) := by
  change p.documentRequest? .graphql = .ok r at h
  rw [documentRequest?] at h
  split at h
  · rename_i hlacks
    cases h
    exact .inl ⟨hlacks, rfl⟩
  obtain ⟨attributes, -, h⟩ := Except.bind_eq_ok_iff.1 h
  obtain ⟨fields, -, h⟩ := Except.bind_eq_ok_iff.1 h
  obtain ⟨arguments, harguments, h⟩ := Except.bind_eq_ok_iff.1 h
  cases h
  exact .inr ⟨fields, arguments, harguments, rfl⟩

theorem lacksFilters_of_readRequest? {r : Request} (h : p.readRequest? d = .ok (some r)) :
    p.lacksFilters = false := by
  cases hlacks : p.lacksFilters with
  | false => rfl
  | true =>
    have hnone : p.readRequest? d = .ok none := by
      cases d <;> simp only [readRequest?, urlRequest?, documentRequest?, hlacks] <;> rfl
    cases h.symm.trans hnone

/-- The parameters of a read request: those of its address, of the filters that are not consumed, of
the sorters and of the window, what is to be read, and what every read asks for. -/
theorem exists_params_of_readRequest? (hd : d ≠ .graphql) {r : Request}
    (h : p.readRequest? d = .ok (some r)) :
    ∃ e address filters remotely projection, p.endpoint d = .ok e ∧ e.address = some address ∧
      (p.remote.without (sentIndices e.consumed)).parameters d.filterStyle = .ok filters ∧
      p.pagesRemotely d = .ok remotely ∧ p.projection d = .ok projection ∧
      r.params = parseQuery (queryOf address) ++ (filters ++ d.sortStyle.parameters p.sorters ++
        (if remotely then d.windowParams p.options p.query.offset p.query.limit else []) ++
        projection ++ d.readParams) := by
  rcases readRequest?_cases hd h with ⟨-, hr⟩ | ⟨-, -, -, hr⟩ |
    ⟨e, address, params, he, haddress, hparams, hr⟩
  · cases hr
  · cases hr
  cases hr
  obtain ⟨filters, hfilters, hparams⟩ := Except.bind_eq_ok_iff.1 hparams
  obtain ⟨remotely, hremotely, hparams⟩ := Except.bind_eq_ok_iff.1 hparams
  obtain ⟨projection, hprojection, hparams⟩ := Except.bind_eq_ok_iff.1 hparams
  cases hparams
  exact ⟨e, address, filters, remotely, projection, he, haddress, hfilters, hremotely, hprojection,
    rfl⟩

end Plan

end EntityQuery
