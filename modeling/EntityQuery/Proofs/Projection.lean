import EntityQuery.Proofs.ForcedFilters
import EntityQuery.Proofs.Selection
import EntityQuery.Proofs.Separation

/-!
# What a read asks for and what it reads

An OData read lists the fields and links of the attributes it reads (`Plan.projection`). They are
those of the addresses of the attributes, while a row is read along their read addresses, and there
are none at all where the entity switches the list of fields off (`Plan.lists_projection_iff`). So
a path that is read is asked for exactly if the addresses, or parameters beside them, happen to list
it (`projection_asks_iff`).
-/

namespace EntityQuery

open Text Url

namespace Url.Params

variable {ps qs : Params} {name item : String}

/-- A parameter of some name lists an item. -/
def Lists (ps : Params) (name item : String) : Prop :=
  ∃ value, (name, some value) ∈ ps ∧ item ∈ Text.split ',' value

theorem lists_append : (ps ++ qs).Lists name item ↔ ps.Lists name item ∨ qs.Lists name item := by
  simp only [Lists, List.mem_append, or_and_right, exists_or]

theorem not_lists_of_not_mem (h : name ∉ ps.map Prod.fst) : ¬ps.Lists name item := by
  rintro ⟨value, hmem, -⟩
  exact h (List.mem_map_of_mem hmem)

end Url.Params

theorem mem_foldl_addOnce {xs done : List String} {x : String} :
    x ∈ xs.foldl addOnce done ↔ x ∈ done ∨ x ∈ xs := by
  induction xs generalizing done with
  | nil => simp
  | cons y xs ih =>
    rw [List.foldl_cons, ih, addOnce]
    split_ifs with hy
    · rw [List.mem_cons]
      exact ⟨.imp_right .inr, by rintro (h | rfl | h) <;> tauto⟩
    · simp [or_assoc]

/-- Several items as one parameter. -/
def listParam (name : String) (items : List String) : Params :=
  if items.isEmpty then [] else [(name, some (join "," items))]

theorem lists_listParam_iff {name key item : String} {items : List String} :
    (listParam name (items.foldl addOnce [])).Lists key item ↔
      key = name ∧ ∃ part ∈ items, item ∈ Text.split ',' part := by
  have hmem (x : String) : x ∈ items.foldl addOnce [] ↔ x ∈ items := by simp [mem_foldl_addOnce]
  unfold listParam
  split_ifs with hempty
  · have hnone : items = [] := List.eq_nil_iff_forall_not_mem.2 fun x hx => by
      rw [← hmem, List.isEmpty_iff.1 hempty] at hx
      cases hx
    simp [Params.Lists, hnone]
  · rw [List.isEmpty_iff] at hempty
    have hsplit : Text.split ',' (join "," (items.foldl addOnce [])) =
        (items.foldl addOnce []).flatMap (Text.split ',') := split_join_eq_flatMap rfl hempty
    simp [Params.Lists, hsplit, hmem]

namespace Plan

variable {d : Dialect} {q : Query} {p : Plan} {r : Request} {attributes : List Attribute}

/-- The parts of the addresses of the attributes that have a remote one. -/
def addressParts (part? : String → Option String) (attributes : List Attribute) : List String :=
  (((attributes.filter (·.hasRemoteAddress)).map (·.dataAddress)).filterMap part?)

theorem projection_eq (hd : d.isOData = true) (hne : p.query.attributes ≠ [])
    (hselected : p.query.selected = .ok attributes) :
    p.projection d = .ok (if p.options.odataSelect then
      listParam "$select" ((addressParts some attributes).foldl addOnce []) ++
        match d.expandParam? with
        | some expand => listParam expand ((addressParts parentPath? attributes).foldl addOnce [])
        | none => []
      else []) := by
  have hselect : d.selectParam? = some "$select" := if_pos hd
  have hempty : p.query.attributes.isEmpty = false := by simpa using hne
  have hlifted : (liftM p.query.selected : Except Error (List Attribute)) = .ok attributes :=
    Except.mapError_eq_ok_iff.2 hselected
  unfold projection addressParts
  simp only [hselect, hempty, Bool.false_or]
  cases p.options.odataSelect
  · rfl
  · simp only [Bool.not_true, Bool.false_eq_true, if_false, if_true, List.filterMap_some]
    exact Except.bind_of_ok _ hlifted

/-- The entity has its fields listed, and a part of the address of an attribute read lists an
item. -/
def Projects (p : Plan) (attributes : List Attribute) (part? : String → Option String)
    (item : String) : Prop :=
  p.options.odataSelect = true ∧ ∃ a ∈ attributes, a.hasRemoteAddress = true ∧
    ∃ part, part? a.dataAddress = some part ∧ item ∈ Text.split ',' part

theorem mem_addressParts {part? : String → Option String} {part : String} :
    part ∈ addressParts part? attributes ↔
      ∃ a ∈ attributes, a.hasRemoteAddress = true ∧ part? a.dataAddress = some part := by
  simp [addressParts, and_assoc]

variable {projection : Params} {item : String}

/-- What the fields list is the addresses of the attributes, and what the links list their
parents. -/
theorem lists_projection_iff (hd : d.isOData = true) (hne : p.query.attributes ≠ [])
    (hselected : p.query.selected = .ok attributes) (h : p.projection d = .ok projection) :
    (projection.Lists "$select" item ↔ p.Projects attributes some item) ∧
      ∀ expand, d.expandParam? = some expand →
        (projection.Lists expand item ↔ p.Projects attributes parentPath? item) := by
  rw [projection_eq hd hne hselected, Except.ok.injEq] at h
  have hparts {part? : String → Option String} :
      (∃ part ∈ addressParts part? attributes, item ∈ Text.split ',' part) ↔
        ∃ a ∈ attributes, a.hasRemoteAddress = true ∧
          ∃ part, part? a.dataAddress = some part ∧ item ∈ Text.split ',' part := by
    simp only [mem_addressParts]
    tauto
  subst h
  unfold Projects
  cases p.options.odataSelect
  · simp [Params.Lists]
  · cases d with
    | odata2 | odata4 =>
      simp [Dialect.expandParam?, Params.lists_append, lists_listParam_iff, hparts]
    | odata => simp [Dialect.expandParam?, lists_listParam_iff, hparts]
    | json | xml | html | graphql => cases hd

/-- A parameter of the address or of the window lists an item. -/
def Brings (p : Plan) (d : Dialect) (address name item : String) : Prop :=
  (parseQuery (queryOf address)).Lists name item ∨
    p.pagesRemotely d = .ok true ∧
      (d.windowParams p.options p.query.offset p.query.limit).Lists name item

/-- What lists neither conditions nor sorters is listed by the address or the window, or by what is
to be read. -/
theorem lists_params_iff (hd : d.isOData = true) (hr : p.readRequest? d = .ok (some r)) :
    ∃ e address projection, p.endpoint d = .ok e ∧ e.address = some address ∧
      p.projection d = .ok projection ∧
      ∀ name item, name ∉ ["$filter", "$orderby", "$format"] →
        (r.params.Lists name item ↔
          p.Brings d address name item ∨ projection.Lists name item) := by
  obtain ⟨e, address, filters, remotely, projection, he, ha, hfilters, hremotely, hprojection,
    hparams⟩ := exists_params_of_readRequest? (Dialect.ne_graphql_of_isOData hd) hr
  refine ⟨e, address, projection, he, ha, hprojection, fun name item hname => ?_⟩
  simp only [List.mem_cons, List.not_mem_nil, or_false, not_or] at hname
  obtain ⟨x, -, rfl⟩ := Group.exists_expression_of_parameters
    (Dialect.supportsGroups_of_isOData hd) hfilters
  have hfilters :
      ¬Params.Lists (x.toList.map fun chain => ("$filter", some chain.text)) name item :=
    Params.not_lists_of_not_mem (by cases x <;> simp [hname])
  have hsorters : ¬(d.sortStyle.parameters p.sorters).Lists name item :=
    Params.not_lists_of_not_mem fun h => hname.2.1 (Dialect.eq_of_mem_names_sorters hd h)
  have hread : ¬d.readParams.Lists name item :=
    Params.not_lists_of_not_mem fun h => hname.2.2 (Dialect.eq_of_mem_names_readParams h)
  have hwindow (window : Params) : Params.Lists (if remotely then window else []) name item ↔
      remotely = true ∧ window.Lists name item := by
    cases remotely <;> simp [Params.Lists]
  rw [hparams, Brings, hremotely]
  simp only [Params.lists_append, hfilters, hsorters, hread, hwindow, false_or, or_false, or_assoc,
    Except.ok.injEq]

end Plan

/-- A request asks for the path of an attribute: among its fields, unless the entity switches them
off, and for the link before its last step, where the dialect has a parameter for links. -/
def Request.AsksFor (r : Request) (d : Dialect) (o : EntityOptions) (a : Attribute) : Prop :=
  (o.odataSelect = true → r.params.Lists "$select" a.readAddress) ∧
    ∀ expand link, d.expandParam? = some expand → parentPath? a.readAddress = some link →
      r.params.Lists expand link

/-- The attributes read are those of the query and further ones. The path of one of them is asked
for exactly if it is a field, and the step before a link, in the addresses of attributes read, or in
a parameter of the address or of the window; without a list of fields, no address counts. -/
theorem projection_asks_iff {d : Dialect} {q : Query} {p : Plan} {r : Request}
    {attributes : List Attribute} (hd : d.isOData = true) (hp : Plan.of d q = .ok p)
    (hr : p.readRequest? d = .ok (some r)) (hne : q.attributes ≠ [])
    (hselected : p.query.selected = .ok attributes) :
    (∃ own later, q.selected = .ok own ∧ attributes = own ++ later) ∧
    ∃ e address, p.endpoint d = .ok e ∧ e.address = some address ∧
      ∀ a ∈ attributes, a.hasRemoteAddress = true → (r.AsksFor d q.entity.options a ↔
        (q.entity.options.odataSelect = true → p.Brings d address "$select" a.readAddress ∨
          p.Projects attributes some a.readAddress) ∧
        ∀ expand link, d.expandParam? = some expand → parentPath? a.readAddress = some link →
          p.Brings d address expand link ∨ p.Projects attributes parentPath? link) := by
  have hne' : p.query.attributes ≠ [] := by
    obtain ⟨later, hlater, -⟩ :=
      q.exists_extendSelection (q.neededNames p.localFilters p.localSorters)
    rw [Plan.query_of hp]
    simp [hlater, hne]
  refine ⟨Plan.exists_own_of_selected hp hselected, ?_⟩
  obtain ⟨e, address, projection, he, ha, hprojection, hlists⟩ := Plan.lists_params_iff hd hr
  refine ⟨e, address, he, ha, fun a ha hremote => ?_⟩
  have hselect (item : String) : r.params.Lists "$select" item ↔
      p.Brings d address "$select" item ∨ p.Projects attributes some item := by
    rw [hlists _ _ (by decide),
      (Plan.lists_projection_iff hd hne' hselected hprojection).1]
  have hexpand {expand : String} (h : d.expandParam? = some expand) (item : String) :
      r.params.Lists expand item ↔
        p.Brings d address expand item ∨ p.Projects attributes parentPath? item := by
    have hfree : expand ∉ ["$filter", "$orderby", "$format"] := by
      cases d <;> cases h <;> decide
    rw [hlists _ _ hfree, (Plan.lists_projection_iff hd hne' hselected hprojection).2 _ h]
  unfold Request.AsksFor
  rw [hselect]
  refine and_congr_right fun _ => forall₂_congr fun expand link => ?_
  exact ⟨fun h hd hl => (hexpand hd _).1 (h hd hl), fun h hd hl => (hexpand hd _).2 (h hd hl)⟩

def customer : Attribute := { name := "customer", dataAddress := "Customer/Name" }

def agent : Attribute :=
  { name := "agent", dataAddress := "Agent", options := { readDataAddress := some "Agent/Name" } }

/-- A plan that reads one attribute of orders. -/
def orderPlan (a : Attribute) (odataSelect : Bool) : Plan where
  query :=
    { entity :=
        { name := "orders", dataAddress := "Orders", attributes := [a]
          options := { odataSelect := odataSelect } }
      attributes := [a.name] }

/-- Such a plan and its request, with the parameters of what is read. -/
structure ReadsOrder (a : Attribute) (odataSelect : Bool) (projection : Params) (r : Request) :
    Prop where
  divided : Plan.of .odata2 (orderPlan a odataSelect).query = .ok (orderPlan a odataSelect)
  compiled : (orderPlan a odataSelect).readRequest? .odata2 = .ok (some r)
  selected : (orderPlan a odataSelect).query.selected = .ok [a]
  remote : a.hasRemoteAddress = true
  params : r.params =
    ("$inlinecount", some "allpages") :: (projection ++ [("$format", some "json")])

theorem projection_asks_customer : ∃ r, ReadsOrder customer true
    [("$select", some "Customer/Name"), ("$expand", some "Customer")] r ∧
      r.AsksFor .odata2 (orderPlan customer true).options customer := by
  have hreads : ReadsOrder customer true
      [("$select", some "Customer/Name"), ("$expand", some "Customer")] (.withParams "GET" "Orders"
        [("$inlinecount", some "allpages"), ("$select", some "Customer/Name"),
          ("$expand", some "Customer"), ("$format", some "json")]
        (Dialect.readHeaders .odata2)) :=
    ⟨rfl, by decide +kernel, rfl, by decide +kernel, rfl⟩
  obtain ⟨-, e, address, -, -, hasks⟩ := projection_asks_iff rfl hreads.divided hreads.compiled
    (List.cons_ne_nil _ _) hreads.selected
  refine ⟨_, hreads, (hasks customer List.mem_cons_self hreads.remote).2 ⟨fun _ => .inr ?_, ?_⟩⟩
  · exact ⟨rfl, customer, List.mem_cons_self, hreads.remote, _, rfl, by decide +kernel⟩
  · rintro expand link - hlink
    have hparent : parentPath? customer.readAddress = some "Customer" := by decide +kernel
    obtain rfl := Option.some.inj (hparent.symm.trans hlink)
    exact .inr ⟨rfl, customer, List.mem_cons_self, hreads.remote, _, hparent, by decide +kernel⟩

/-- A read address is not asked for, and a link is not followed where no fields are listed. -/
theorem projection_unasked :
    (∃ r, ReadsOrder agent true [("$select", some "Agent")] r ∧
      ¬r.AsksFor .odata2 (orderPlan agent true).options agent) ∧
    ∃ r, ReadsOrder customer false [] r ∧
      ¬r.AsksFor .odata2 (orderPlan customer false).options customer := by
  refine ⟨⟨.withParams "GET" "Orders" [("$inlinecount", some "allpages"),
      ("$select", some "Agent"), ("$format", some "json")] (Dialect.readHeaders .odata2),
      ⟨rfl, by decide +kernel, rfl, by decide +kernel, rfl⟩, ?_⟩,
    .withParams "GET" "Orders" [("$inlinecount", some "allpages"), ("$format", some "json")]
      (Dialect.readHeaders .odata2),
      ⟨rfl, by decide +kernel, rfl, by decide +kernel, rfl⟩, ?_⟩
  · rintro ⟨hfield, -⟩
    obtain ⟨value, hvalue, hitem⟩ := hfield rfl
    obtain rfl : value = "Agent" := by simpa [Request.params, Request.withParams] using hvalue
    exact absurd hitem (by decide +kernel)
  · rintro ⟨-, hlink⟩
    exact Params.not_lists_of_not_mem (by decide +kernel)
      (hlink "$expand" "Customer" rfl (by decide +kernel))

end EntityQuery
