import EntityQuery.Body.Rows
import EntityQuery.Proofs.ArgumentConditions
import EntityQuery.Proofs.TableQuery

/-!
# What later steps find in the rows

A plan reads further attributes for the filters and sorters that it leaves for later
(`Query.extendSelection`), and a row has a value for exactly the attributes read that have a remote
address (`Body.isSome_get?_mapRow`). So a filter or sorter that is left for later finds its
attribute in every row, unless the attribute has no remote address, or the filter names a field that
the query does not read (`laterTarget_isKey_and_keys_read`).
-/

namespace EntityQuery

theorem Entity.getAttribute?_of_getAttribute {e : Entity} {a : Attribute} {name : String}
    (h : e.getAttribute name = .ok a) : e.getAttribute? name = some a := by
  unfold Entity.getAttribute at h
  split at h <;> cases h
  assumption

namespace Query

variable {q : Query} {name : String} {needed : List String}

/-- Names are only added at the end, and every needed name that the entity has is there then. -/
theorem foldl_extend (e : Entity) (needed done : List String) : ∃ later,
    needed.foldl (fun done name =>
      if name ∉ done ∧ (e.getAttribute? name).isSome then done ++ [name] else done) done =
      done ++ later ∧
    ∀ name ∈ needed, (e.getAttribute? name).isSome → name ∈ done ++ later := by
  induction needed generalizing done with
  | nil => exact ⟨[], (List.append_nil _).symm, nofun⟩
  | cons x needed ih =>
    rw [List.foldl_cons]
    split_ifs with hx
    · obtain ⟨later, hlater, hnamed⟩ := ih (done ++ [x])
      refine ⟨x :: later, by simp [hlater], ?_⟩
      simp only [List.append_assoc, List.singleton_append] at hnamed
      simpa using hnamed
    · obtain ⟨later, hlater, hnamed⟩ := ih done
      refine ⟨later, hlater, ?_⟩
      rintro name hname hknown
      rcases List.mem_cons.1 hname with rfl | hname
      · exact List.mem_append_left _ (by_contra fun h => hx ⟨h, hknown⟩)
      · exact hnamed name hname hknown

/-- A selection is only extended at its end. -/
theorem exists_extendSelection (q : Query) (needed : List String) :
    ∃ later, q.extendSelection needed = q.attributes ++ later ∧
      (q.attributes = [] → later = []) := by
  rw [extendSelection]
  split_ifs with hempty
  · rw [List.isEmpty_iff.1 hempty]
    exact ⟨[], rfl, fun _ => rfl⟩
  · obtain ⟨later, hlater, -⟩ := foldl_extend q.entity needed q.attributes
    exact ⟨later, hlater, fun h => absurd (List.isEmpty_iff.2 h) hempty⟩

theorem mem_extendSelection (hne : q.attributes ≠ []) (hname : name ∈ needed)
    (hknown : (q.entity.getAttribute? name).isSome) : name ∈ q.extendSelection needed := by
  obtain ⟨later, hlater, hnamed⟩ := foldl_extend q.entity needed q.attributes
  rw [extendSelection, if_neg (by simpa using hne), hlater]
  exact hnamed name hname hknown

/-- The selection reads the attribute of a name: it names it, or it is empty. -/
def Reads (q : Query) (name : String) : Prop := q.attributes = [] ∨ name ∈ q.attributes

variable {a : Attribute} {attributes : List Attribute}

theorem mem_selected (h : q.selected = .ok attributes) (hread : q.Reads name)
    (ha : q.entity.getAttribute? name = some a) : a ∈ attributes := by
  rw [selected] at h
  split_ifs at h with hempty
  · cases h
    exact List.mem_of_find?_eq_some ha
  · rw [List.isEmpty_iff] at hempty
    obtain ⟨b, hb, hab⟩ := (List.mapM_eq_ok_iff.1 h).and_mem.exists_of_mem
      (hread.resolve_left hempty)
    rw [Entity.getAttribute?_of_getAttribute hab] at ha
    cases ha
    exact hb.2

theorem reads_of_mem_selected (h : q.selected = .ok attributes) (ha : a ∈ attributes) :
    a ∈ q.entity.attributes ∧ q.Reads a.name := by
  rw [selected] at h
  split_ifs at h with hempty
  · cases h
    exact ⟨ha, .inl (List.isEmpty_iff.1 hempty)⟩
  · obtain ⟨name, hname, hfound⟩ := (List.mapM_eq_ok_iff.1 h).flip.and_mem.exists_of_mem ha
    have hfound := Entity.getAttribute?_of_getAttribute hfound
    have hsame : a.name = name := by simpa using List.find?_some hfound
    exact ⟨List.mem_of_find?_eq_some hfound, .inr (hsame ▸ hname.2)⟩

end Query

namespace Body

variable {d : Dialect} {attributes : List Attribute} {row : Row}

/-- What an attribute puts into a row. -/
def readItem? (d : Dialect) (read : Attribute → Except Error Value) (a : Attribute) :
    Except Error (Option (String × Value)) :=
  if a.hasRemoteAddress then do
    pure (some (a.name, ← d.codec.decodeFromBody (a.joined (← read a))))
  else .ok none

variable {read : Attribute → Except Error Value}

theorem exists_entries_of_mapRow (h : mapRow d attributes read = .ok row) :
    ∃ es, List.Forall₂ (fun a e => readItem? d read a = .ok e) attributes es ∧
      row = Row.ofEntries es.reduceOption :=
  Row.exists_entries_of_foldlM (fun row a => by
    unfold readItem?
    cases a.hasRemoteAddress <;> simp <;> rfl) h

theorem readItem?_eq_ok {a : Attribute} {e : Option (String × Value)}
    (h : readItem? d read a = .ok e) :
    (a.hasRemoteAddress = true ∧ ∃ v, e = some (a.name, v)) ∨
      (a.hasRemoteAddress = false ∧ e = none) := by
  unfold readItem? at h
  split_ifs at h with hremote
  · obtain ⟨v, -, h⟩ := Except.bind_eq_ok_iff.1 h
    obtain ⟨v, -, h⟩ := Except.bind_eq_ok_iff.1 h
    cases h
    exact .inl ⟨hremote, v, rfl⟩
  · cases h
    exact .inr ⟨Bool.eq_false_iff.2 hremote, rfl⟩

/-- A row has a value for every attribute read that has a remote address, and for no other. -/
theorem isSome_get?_mapRow (h : mapRow d attributes read = .ok row) (name : String) :
    (row.get? name).isSome ↔ ∃ a ∈ attributes, a.name = name ∧ a.hasRemoteAddress = true := by
  obtain ⟨es, hes, rfl⟩ := exists_entries_of_mapRow h
  rw [Row.isSome_get?_ofEntries_iff]
  simp only [List.reduceOption_mem_iff]
  constructor
  · rintro ⟨v, hv⟩
    obtain ⟨a, ⟨-, ha⟩, hentry⟩ := hes.flip.and_mem.exists_of_mem hv
    rcases readItem?_eq_ok hentry with ⟨hremote, w, hw⟩ | ⟨-, hnone⟩
    · cases hw
      exact ⟨a, ha, rfl, hremote⟩
    · cases hnone
  · rintro ⟨a, ha, rfl, hremote⟩
    obtain ⟨e, ⟨-, he⟩, hentry⟩ := hes.and_mem.exists_of_mem ha
    rcases readItem?_eq_ok hentry with ⟨-, v, rfl⟩ | ⟨hnone, -⟩
    · exact ⟨v, he⟩
    · cases hremote.symm.trans hnone

/-- Every row of a body is mapped from the attributes to read. -/
theorem exists_mapRow_of_mem_rows {b : Body} {q : Query} {itemScoped : Bool} {rows : List Row}
    (h : b.rows d q itemScoped = .ok rows) (hrow : row ∈ rows) :
    ∃ attributes read, q.selected = .ok attributes ∧ mapRow d attributes read = .ok row := by
  obtain ⟨attributes, hselected, h⟩ := Except.bind_eq_ok_iff.1 h
  have hselected := Except.mapError_eq_ok_iff.1 hselected
  cases b with
  | data v =>
    obtain ⟨c, -, h⟩ := Except.bind_eq_ok_iff.1 h
    obtain ⟨raw, hraw⟩ := (List.mapM_eq_ok_iff.1 h).flip.exists_of_mem hrow
    exact ⟨attributes, _, hselected, hraw⟩
  | page text url =>
    obtain ⟨raws, -, h⟩ := Except.bind_eq_ok_iff.1 h
    obtain ⟨raw, hraw⟩ := (List.mapM_eq_ok_iff.1 h).flip.exists_of_mem hrow
    exact ⟨attributes, _, hselected, hraw⟩

end Body

namespace Plan

variable {d : Dialect} {q : Query} {p : Plan}

/-- The targets of the filters and sorters that are left for later. -/
def laterTargets (p : Plan) : List Target :=
  p.localFilters.leaves.map (·.target) ++ p.localSorters.map (·.target)

variable {t : Target}

theorem mem_neededNames (ht : t ∈ p.laterTargets) (hown : t.attribute?.isSome) :
    t.name ∈ q.neededNames p.localFilters p.localSorters := by
  obtain ⟨a, rfl⟩ : ∃ a, t = .attribute a := by
    cases t <;> first | exact ⟨_, rfl⟩ | cases hown
  have hname {α : Type} {target : α → Target} {xs : List α} (h : .attribute a ∈ xs.map target) :
      a.name ∈ xs.filterMap fun x => (target x).attribute?.map (·.name) := by
    obtain ⟨x, hx, htarget⟩ := List.mem_map.1 h
    exact List.mem_filterMap.2 ⟨x, hx, by rw [htarget]; rfl⟩
  unfold Query.neededNames
  rcases List.mem_append.1 ht with ht | ht
  · exact List.mem_append_left _ (List.mem_append_left _ (hname ht))
  · exact List.mem_append_left _ (List.mem_append_right _ (hname ht))

theorem query_of (hp : Plan.of d q = .ok p) : p.query =
    { q with attributes := q.extendSelection (q.neededNames p.localFilters p.localSorters) } := by
  obtain ⟨filters, -, hp⟩ := Except.bind_eq_ok_iff.1 hp
  cases hp
  rfl

/-- An attribute that a later step asks for is read along. -/
theorem reads_of_mem_laterTargets (hp : Plan.of d q = .ok p) (ht : t ∈ p.laterTargets)
    (hown : t.attribute?.isSome) (hknown : (p.entity.getAttribute? t.name).isSome) :
    p.query.Reads t.name := by
  have hquery := query_of hp
  rw [Plan.entity, hquery] at hknown
  by_cases hne : q.attributes = []
  · obtain ⟨later, hlater, hnil⟩ :=
      q.exists_extendSelection (q.neededNames p.localFilters p.localSorters)
    left
    rw [hquery, hlater, hne, hnil hne, List.append_nil]
  · right
    rw [hquery]
    exact Query.mem_extendSelection hne (mem_neededNames ht hown) hknown

/-- A plan reads the attributes of its query, and further ones after them. -/
theorem exists_own_of_selected {attributes : List Attribute} (hp : Plan.of d q = .ok p)
    (h : p.query.selected = .ok attributes) :
    ∃ own later, q.selected = .ok own ∧ attributes = own ++ later := by
  obtain ⟨later, hlater, hnil⟩ :=
    q.exists_extendSelection (q.neededNames p.localFilters p.localSorters)
  rw [query_of hp, hlater] at h
  by_cases hne : q.attributes = []
  · rw [hnil hne, List.append_nil] at h
    exact ⟨attributes, [], h, (List.append_nil _).symm⟩
  · rw [Query.selected, if_neg (by simp [hne]), List.mapM_append] at h
    obtain ⟨own, hown, h⟩ := Except.bind_eq_ok_iff.1 h
    obtain ⟨further, -, h⟩ := Except.bind_eq_ok_iff.1 h
    cases h
    exact ⟨own, further, (if_neg (by simpa using hne)).trans hown, rfl⟩

end Plan

/-- A filter or sorter that is left for later finds a value in every row where its name is that of
an attribute with a remote address that is its own target or is read by the query. No row has
another name. -/
theorem laterTarget_isKey_and_keys_read {d : Dialect} {q : Query} {p : Plan} {b : Body}
    {itemScoped : Bool} {rows : List Row} {row : Row} (hp : Plan.of d q = .ok p)
    (hrows : b.rows d p.query itemScoped = .ok rows) (hrow : row ∈ rows) :
    (∀ t ∈ p.laterTargets, ∀ a, p.entity.getAttribute? t.name = some a →
      a.hasRemoteAddress = true → t.attribute?.isSome ∨ p.query.Reads t.name →
      (row.get? t.name).isSome) ∧
    ∀ name, (row.get? name).isSome →
      ∃ a ∈ p.entity.attributes, a.name = name ∧ a.hasRemoteAddress = true ∧
        p.query.Reads name := by
  obtain ⟨attributes, read, hselected, hmap⟩ := Body.exists_mapRow_of_mem_rows hrows hrow
  constructor
  · intro t ht a ha hremote hread
    have hname : a.name = t.name := by simpa using List.find?_some ha
    have hread : p.query.Reads t.name := hread.elim
      (fun hown => Plan.reads_of_mem_laterTargets hp ht hown (Option.isSome_of_eq_some ha)) id
    exact (Body.isSome_get?_mapRow hmap _).2
      ⟨a, Query.mem_selected hselected hread ha, hname, hremote⟩
  · intro name hkey
    obtain ⟨a, ha, rfl, hremote⟩ := (Body.isSome_get?_mapRow hmap _).1 hkey
    obtain ⟨hmem, hread⟩ := Query.reads_of_mem_selected hselected ha
    exact ⟨a, hmem, rfl, hremote, hread⟩

/-- Issues with a count that is made from other values. -/
def countedIssues : Entity where
  name := "issues"
  dataAddress := "issues"
  attributes := [{ name := "id", dataAddress := "id" }, { name := "state", dataAddress := "state" },
    { name := "count", dataAddress := "=Count(id)" }]

/-- A read of all issues but some, with a condition that is left for later. -/
def issuesBut (target : Target) (attributes : List String) : Query where
  entity := countedIssues
  attributes := attributes
  filters := .mk .and [.condition { target := target, comparator := .notEquals, value := .str "x" }]
    []

/-- A row that such a read takes from an answer with one issue. -/
def ReadsIssue (target : Target) (attributes : List String) (row : Row) : Prop :=
  let body : Body := .data (.list [.map [("id", .str "1"), ("state", .str "open")]])
  ∃ p, Plan.of .json (issuesBut target attributes) = .ok p ∧ target ∈ p.laterTargets ∧
    body.rows .json p.query false = .ok [row]

theorem laterTarget_isKey_readsIssue :
    let state : Target := .attribute { name := "state", dataAddress := "state" }
    ∃ row, ReadsIssue state ["id"] row ∧ (row.get? state.name).isSome := by
  intro state
  have hreads : ReadsIssue state ["id"] [("id", .str "1"), ("state", .str "open")] :=
    ⟨_, rfl, List.mem_cons_self, by decide +kernel⟩
  obtain ⟨p, hp, hlater, hrows⟩ := hreads
  obtain ⟨hfound, -⟩ := laterTarget_isKey_and_keys_read hp hrows List.mem_cons_self
  obtain rfl := (Except.ok.inj hp).symm
  exact ⟨_, ⟨_, hp, hlater, hrows⟩, hfound _ hlater _ rfl (by decide +kernel) (.inl rfl)⟩

/-- The row lacks a field that the query does not read, and what has no remote address. -/
theorem get?_laterTarget_eq_none :
    (∃ row, ReadsIssue (.address "state") ["id"] row ∧ row.get? "state" = none) ∧
      ∃ row, ReadsIssue (.attribute { name := "count", dataAddress := "=Count(id)" }) [] row ∧
        row.get? "count" = none :=
  ⟨⟨[("id", .str "1")], ⟨_, rfl, List.mem_cons_self, by decide +kernel⟩, rfl⟩,
    ⟨[("id", .str "1"), ("state", .str "open")],
      ⟨_, rfl, List.mem_cons_self, by decide +kernel⟩, rfl⟩⟩

end EntityQuery
