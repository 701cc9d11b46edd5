import EntityQuery.Proofs.EndpointValue

/-!
# Conditions that go into the address

The endpoint of a read consumes the condition that names items and every condition that brings an
address along, and what it consumes is neither sent nor evaluated again. The conditions that bring
one along share a single address (`ownAddresses_spec`), but each puts its own text in the place of
the one before it, and of several values only the first. So nothing is lost exactly if all that is
consumed asks for one value, the same one, at the same address (`Plan.keeps_iff`).
-/

namespace EntityQuery

open Text Url

/-- A condition that rows meet by having its value, of which there is one. -/
def Condition.AsksForOne (c : Condition) : Prop :=
  (c.comparator = .equals ∨ c.comparator = .is ∨ c.comparator = .isIn) ∧
    ∃ v, c.values = .ok [v]

/-- A condition that an address of its own expresses, with a text for its value. -/
structure Condition.GoesInto (c : Condition) (own text : String) : Prop where
  one : c.AsksForOne
  url : nonEmpty? c.options.filterRemoteUrl = some own
  text : c.addressText? = .ok (some text)

/-- An address that is filled in expresses a condition: it is the condition's own, with its text. -/
def Template.Holds (t : Template) (c : Condition) : Prop :=
  ∃ text, t.own = some text ∧ c.GoesInto t.text text

/-- All conditions that bring an address along are consumed, and it is the same for all. -/
theorem ownAddresses_spec {t : FilterStyle} {url : Option String} {e : String × List Located}
    {ls consumed : List Located} {address : String}
    (h : ownAddresses t url e ls = .ok (true, address, consumed)) :
    consumed = e.2 ++ ls.filter (bringsAddress t) ∧
      ∃ own, (url = none ∨ url = some own) ∧
        ∀ l ∈ ls.filter (bringsAddress t), nonEmpty? l.2.options.filterRemoteUrl = some own := by
  induction ls generalizing url e with
  | nil =>
    cases h
    refine ⟨by simp, url.getD "", ?_, by simp⟩
    cases url <;> simp
  | cons l ls ih =>
    by_cases hbrings : bringsAddress t l = true
    · obtain ⟨hsome, hremote⟩ := Bool.and_eq_true_iff.1 hbrings
      obtain ⟨own, hown⟩ := Option.isSome_iff_exists.1 hsome
      rw [ownAddresses, hown, hremote] at h
      simp only at h
      split at h
      · cases h
      rename_i hurl
      obtain ⟨text, htext, h⟩ := Except.bind_eq_ok_iff.1 h
      have hrest : ∃ start, ownAddresses t (some own) (start, e.2 ++ [l]) ls =
          .ok (true, address, consumed) := by
        cases text with
        | some text => exact ⟨_, h⟩
        | none =>
          simp only at h
          split at h
          · cases h
          · exact ⟨_, h⟩
      obtain ⟨start, hrest⟩ := hrest
      obtain ⟨hconsumed, own', hsame, hall⟩ := ih hrest
      obtain rfl : own = own' := by simpa using hsame
      rw [List.filter_cons_of_pos hbrings]
      refine ⟨by simp [hconsumed], own, ?_, List.forall_mem_cons.2 ⟨hown, hall⟩⟩
      cases url <;> simp_all
    · rw [List.filter_cons_of_neg hbrings]
      rw [ownAddresses] at h
      split at h
      · rename_i hown hremote
        exact absurd (by rw [bringsAddress, hown, hremote]; rfl) hbrings
      · exact ih h

namespace Plan

variable {p : Plan} {d : Dialect}

/-- The conditions that bring an address along. -/
def bringing (p : Plan) (d : Dialect) : List Located :=
  p.topLevel.filter (bringsAddress d.filterStyle)

/-- A condition that goes into an address is kept: the address is its own and holds its value, or
it is the address of single items and the condition the one that names them. -/
def Keeps (p : Plan) (t : Template) (l : Located) : Prop :=
  t.Holds l.2 ∨ t.own = none ∧ p.itemCondition? = .ok (some l)

/-- Without an address that conditions bring along, it is that of the items or of the entity. -/
theorem template_of_nil {t : Template} {item : Option Located} (hnil : p.bringing d = [])
    (hitem : p.itemCondition? = .ok item) (ht : p.template d = .ok t) :
    t = ⟨p.addressFor item, none⟩ := by
  rw [bringing] at hnil
  rw [template, hnil, hitem] at ht
  exact (Except.ok.inj ht).symm

/-- The last address that is brought along is the one that is read from. -/
theorem exists_template_of_ne_nil {t : Template} (hne : p.bringing d ≠ [])
    (ht : p.template d = .ok t) :
    ∃ l ∈ p.bringing d, ∃ text, l.2.addressText? = .ok text ∧
      t = ⟨l.2.options.filterRemoteUrl.getD "", some (text.getD "")⟩ := by
  have hlast := List.getLast?_eq_some_getLast hne
  refine ⟨_, List.getLast_mem hne, ?_⟩
  rw [template, ← bringing, hlast] at ht
  obtain ⟨text, htext, ht⟩ := Except.bind_eq_ok_iff.1 ht
  exact ⟨text, htext, (Except.ok.inj ht).symm⟩

theorem exists_consumed {e : Endpoint} (he : p.endpoint d = .ok e) {address : String}
    (ha : e.address = some address) :
    ∃ item own, p.itemCondition? = .ok item ∧ e.consumed = item.toList ++ p.bringing d ∧
      ∀ l ∈ p.bringing d, nonEmpty? l.2.options.filterRemoteUrl = some own := by
  obtain ⟨item, complete, start, hitem, hown, hcomplete⟩ := exists_ownAddresses he
  cases complete with
  | false => cases ha.symm.trans (hcomplete rfl)
  | true =>
    obtain ⟨hconsumed, own, -, hall⟩ := ownAddresses_spec hown
    exact ⟨item, own, hitem, hconsumed, hall⟩

/-- The text of the last condition is what all others are measured by. -/
theorem keeps_iff {t : Template} {item : Option Located} {consumed : List Located}
    (hitem : p.itemCondition? = .ok item) (ht : p.template d = .ok t)
    (hconsumed : consumed = item.toList ++ p.bringing d) :
    (∀ l ∈ consumed, p.Keeps t l) ↔
      p.bringing d = [] ∨ ∃ own text, ∀ l ∈ consumed, l.2.GoesInto own text := by
  by_cases hnil : p.bringing d = []
  · refine iff_of_true ?_ (.inl hnil)
    intro l hl
    rw [hconsumed, hnil, List.append_nil, Option.mem_toList] at hl
    rw [template_of_nil hnil hitem ht]
    exact .inr ⟨rfl, hl ▸ hitem⟩
  · obtain ⟨last, hlast, text, htext, rfl⟩ := exists_template_of_ne_nil hnil ht
    have hmem : last ∈ consumed := by
      rw [hconsumed]
      exact List.mem_append_right _ hlast
    constructor
    · intro h
      refine .inr ⟨last.2.options.filterRemoteUrl.getD "", text.getD "", fun l hl => ?_⟩
      rcases h l hl with ⟨text', hsome, hgoes⟩ | ⟨hnone, -⟩
      · cases hsome
        exact hgoes
      · cases hnone
    · rintro (h | ⟨own, text', h⟩) l hl
      · exact absurd h hnil
      · obtain ⟨-, hurl, hlasttext⟩ := h last hmem
        rw [htext] at hlasttext
        cases hlasttext
        rw [(Option.filter_eq_some_iff.1 hurl).1]
        exact .inl ⟨text', rfl, h l hl⟩

end Plan

/-- A read goes to the address of the conditions that bring one along, which is the same for all, or
else to that of the items or of the entity. Every condition that it consumes is kept exactly if none
brings an address along, or all that are consumed ask for one value, the same one, at the same
address. -/
theorem consumed_kept_iff {p : Plan} {d : Dialect} (hd : d ≠ .graphql) {r : Request}
    (h : p.readRequest? d = .ok (some r)) :
    ∃ e t item own filled address, p.endpoint d = .ok e ∧ p.template d = .ok t ∧
      p.itemCondition? = .ok item ∧ e.consumed = item.toList ++ p.bringing d ∧
      (∀ l ∈ p.bringing d, nonEmpty? l.2.options.filterRemoteUrl = some own) ∧
      t.read? p.value = some filled ∧ Plan.adaptAddress p.options filled = .ok address ∧
      r.path = pathOf address ∧
      ((∀ l ∈ e.consumed, p.Keeps t l) ↔
        p.bringing d = [] ∨ ∃ own text, ∀ l ∈ e.consumed, l.2.GoesInto own text) := by
  rcases Plan.readRequest?_cases hd h with ⟨-, hr⟩ | ⟨e, -, -, hr⟩ |
    ⟨e, address, params, he, ha, -, hr⟩
  · cases hr
  · cases hr
  obtain ⟨t, filled, ht, hread, hadapted⟩ := Plan.exists_template_adapted he ha
  obtain ⟨item, own, hitem, hconsumed, hown⟩ := Plan.exists_consumed he ha
  have hpath : r.path = pathOf address := by
    rw [Option.some.inj hr]
    exact Request.path_withParams (exists_eq_pathOf address).1 _ _ _
  exact ⟨e, t, item, own, filled, address, he, ht, hitem, hconsumed, hown, hread, hadapted, hpath,
    Plan.keeps_iff hitem ht hconsumed⟩

/-- Items that are read by their identifiers or by their kinds. -/
def sortedItems : Entity where
  name := "items"
  dataAddress := "items"
  uidName := some "id"
  attributes :=
    [{ name := "id", dataAddress := "id", options := { filterRemote := some true } },
      { name := "kind", dataAddress := "kind"
        options := { filterRemoteUrl := some "kinds/[#value#]" } }]
  options := { uidRequestDataAddress := some "items/[#id#]" }

def sortedCondition (name : String) (comparator : Comparator) (value : Value) : Condition where
  target := ((sortedItems.getAttribute? name).map Target.attribute).getD (.address name)
  comparator := comparator
  value := value

def sortedQuery (conditions : List Condition) : Query where
  entity := sortedItems
  filters := .mk .and (conditions.map .condition) []

/-- The plan of a read whose conditions are all sent. -/
def sortedPlan (conditions : List Condition) : Plan where
  query := sortedQuery conditions
  remote := (sortedQuery conditions).filters
  localFilters := .empty

/-- A read by the kinds that a list names, which is one. -/
def oneKind : Plan := sortedPlan [sortedCondition "kind" .isIn (.list [.str "a"])]

theorem consumed_kept_oneKind : Plan.of .json oneKind.query = .ok oneKind ∧
    ∃ r e t, oneKind.readRequest? .json = .ok (some r) ∧ r.path = "kinds/a" ∧
      oneKind.endpoint .json = .ok e ∧ oneKind.template .json = .ok t ∧
      e.consumed = [(.remote 0, sortedCondition "kind" .isIn (.list [.str "a"]))] ∧
      ∀ l ∈ e.consumed, oneKind.Keeps t l := by
  have hr : oneKind.readRequest? .json =
      .ok (some { uri := "kinds/a", queryParams := some [] }) := by decide +kernel
  obtain ⟨e, t, item, own, filled, address, he, ht, hitem, hconsumed, -, -, -, -, hkept⟩ :=
    consumed_kept_iff (by decide) hr
  cases hitem.symm.trans (show oneKind.itemCondition? = .ok none from rfl)
  have hone : e.consumed = [(.remote 0, sortedCondition "kind" .isIn (.list [.str "a"]))] :=
    hconsumed.trans rfl
  refine ⟨rfl, _, e, t, hr, by decide +kernel, he, ht, hone, hkept.2 (.inr ?_)⟩
  refine ⟨"kinds/[#value#]", "a", fun l hl => ?_⟩
  rw [hone, List.mem_singleton] at hl
  rw [hl]
  exact ⟨⟨.inr (.inr rfl), .str "a", rfl⟩, rfl, rfl⟩

/-- A condition goes into an address that does not keep it, and is neither sent as a parameter nor
left for evaluation after reading. -/
def Loses (conditions : List Condition) (path : String) (c : Condition) : Prop :=
  let p := sortedPlan conditions
  Plan.of .json p.query = .ok p ∧ ∃ r e t i, p.readRequest? .json = .ok (some r) ∧
    r.path = path ∧ r.params = [] ∧ p.endpoint .json = .ok e ∧ p.template .json = .ok t ∧
    (.remote i, c) ∈ e.consumed ∧ ¬p.Keeps t (.remote i, c)

theorem loses_of {conditions : List Condition} {path s : String} {c : Condition} {i : Nat}
    {item : Option Located}
    (hplan : Plan.of .json (sortedPlan conditions).query = .ok (sortedPlan conditions))
    (hr : (sortedPlan conditions).readRequest? .json =
      .ok (some { uri := path, queryParams := some [] }))
    (hpath : pathOf path = path) (hitem : (sortedPlan conditions).itemCondition? = .ok item)
    (ht : (sortedPlan conditions).template .json = .ok ⟨"kinds/[#value#]", some s⟩)
    (hmem : (.remote i, c) ∈ item.toList ++ (sortedPlan conditions).bringing .json)
    (hlost : ¬c.GoesInto "kinds/[#value#]" s) : Loses conditions path c := by
  rcases Plan.readRequest?_cases (by decide) hr with ⟨-, h⟩ | ⟨-, -, -, h⟩ |
    ⟨e, address, -, he, ha, -, -⟩
  · cases h
  · cases h
  obtain ⟨item', -, hitem', hconsumed, -⟩ := Plan.exists_consumed he ha
  cases hitem.symm.trans hitem'
  refine ⟨hplan, _, e, _, i, hr, hpath, rfl, he, ht, hconsumed ▸ hmem, ?_⟩
  rintro (⟨_, ⟨⟩, hgoes⟩ | ⟨⟨⟩, -⟩)
  exact hlost hgoes

/-- Of several kinds the first is read, a kind that is ruled out is read, of two kinds the last is
read, and of an item and its kind the kind. -/
theorem consumed_lost :
    Loses [sortedCondition "kind" .isIn (.list [.str "a", .str "b"])] "kinds/a"
        (sortedCondition "kind" .isIn (.list [.str "a", .str "b"])) ∧
      Loses [sortedCondition "kind" .notEquals (.str "a")] "kinds/a"
        (sortedCondition "kind" .notEquals (.str "a")) ∧
      Loses [sortedCondition "kind" .equals (.str "a"), sortedCondition "kind" .equals (.str "b")]
        "kinds/b" (sortedCondition "kind" .equals (.str "a")) ∧
      Loses [sortedCondition "id" .equals (.str "7"), sortedCondition "kind" .equals (.str "a")]
        "kinds/a" (sortedCondition "id" .equals (.str "7")) := by
  refine ⟨loses_of (i := 0) (s := "a") rfl (by decide +kernel) (by decide +kernel) rfl
      (by decide +kernel) (List.mem_singleton_self _) ?_,
    loses_of (i := 0) (s := "a") rfl (by decide +kernel) (by decide +kernel) rfl
      (by decide +kernel) (List.mem_singleton_self _) ?_,
    loses_of (i := 0) (s := "b") rfl (by decide +kernel) (by decide +kernel) rfl
      (by decide +kernel) List.mem_cons_self ?_,
    loses_of (i := 0) (s := "a") rfl (by decide +kernel) (by decide +kernel) rfl
      (by decide +kernel) List.mem_cons_self ?_⟩
  · rintro ⟨⟨-, v, hv⟩, -, -⟩
    cases hv
  · rintro ⟨⟨hcomparator, -⟩, -, -⟩
    rcases hcomparator with h | h | h <;> cases h
  · rintro ⟨-, -, htext⟩
    exact absurd (Option.some.inj (Except.ok.inj htext)) (by decide)
  · rintro ⟨-, hurl, -⟩
    cases hurl

end EntityQuery
