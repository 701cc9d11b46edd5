import EntityQuery.Proofs.Deletion
import EntityQuery.Proofs.PlainRead

/-!
# Plans for single items

Where a condition at the top names items and the entity has an address for single ones, the items
are read one by one: each by the plan with a condition for that item in the place of the one for all
(`Plan.ForItem`), in the order in which the condition names them (`ItemRead.exists_fanOut`). A
condition is found again by its number among all conditions of the plan (`Plan.number`).
-/

namespace EntityQuery

open Text

section Replaced

variable {α : Type} {test : α → Bool} {a b : α}

theorem find?_set_of_pos {xs : List α} {n : Nat} (hn : n < xs.length) (ha : test a = true) :
    (xs.set n a).find? test = some (((xs.take n).find? test).getD a) := by
  induction xs generalizing n with
  | nil => cases hn
  | cons x xs ih =>
    cases n with
    | zero => rw [List.set_cons_zero, List.find?_cons_of_pos ha]; rfl
    | succ n =>
      rw [List.set_cons_succ, List.take_succ_cons, List.find?_cons, List.find?_cons]
      cases test x with
      | true => rfl
      | false => exact ih (Nat.lt_of_succ_lt_succ hn)

theorem find?_set_of_not {xs : List α} {n : Nat} (hb : xs[n]? = some b) (htest : test b = false)
    (ha : test a = false) : (xs.set n a).find? test = xs.find? test := by
  induction xs generalizing n with
  | nil => cases hb
  | cons x xs ih =>
    cases n with
    | zero =>
      cases hb
      rw [List.set_cons_zero, List.find?_cons_of_neg (by simp [ha]),
        List.find?_cons_of_neg (by simp [htest])]
    | succ n =>
      rw [List.set_cons_succ, List.find?_cons, List.find?_cons]
      cases test x with
      | true => rfl
      | false => exact ih hb

end Replaced

/-- The condition `c` in the place of the one that stands there. -/
def Located.putAt (place : Place) (c : Condition) (l : Located) : Located :=
  if l.1 = place then (place, c) else l

namespace Plan

/-- The conditions of a plan, those sent first. -/
def leaves (p : Plan) : List Condition := p.remote.leaves ++ p.localFilters.leaves

/-- The number of a place among the conditions of a plan. -/
def number (p : Plan) : Place → Nat
  | .remote i => i
  | .locally i => p.remote.leaves.length + i

/-- The name that a placeholder asks for. -/
def placeholderKey (p : Plan) (name : String) : String :=
  if lower name = "uid" ∨ lower name = "~uid" then p.entity.uid?.getD name else name

variable {p : Plan} {place : Place} {c x : Condition} {uid : String}

theorem find?_eq (p : Plan) (name : String) :
    p.find? name = p.leaves.find? fun c => lower c.name == lower (p.placeholderKey name) := by
  rw [leaves, List.find?_append]
  rfl

theorem getElem?_leaves {l : Located} (h : l ∈ p.topLevel) :
    p.leaves[p.number l.1]? = some l.2 := by
  rw [topLevel, List.mem_append] at h
  rcases h with h | h <;> obtain ⟨⟨i, c⟩, hmem, rfl⟩ := List.mem_map.1 h <;>
    have hget := Group.getElem?_leaves_of_mem_topLevel hmem
  · obtain ⟨hlt, -⟩ := List.getElem?_eq_some_iff.1 hget
    exact (List.getElem?_append_left hlt).trans hget
  · rw [leaves, number, List.getElem?_append_right (Nat.le_add_right _ _), Nat.add_sub_cancel_left]
    exact hget

theorem leaves_withCondition (h : (place, x) ∈ p.topLevel) (c : Condition) :
    (p.withCondition place c).leaves = p.leaves.set (p.number place) c := by
  cases place with
  | remote i =>
    have hget := Group.getElem?_leaves_of_mem_topLevel (g := p.remote) (l := (i, x)) (by
      simpa [topLevel] using h)
    obtain ⟨hlt, -⟩ := List.getElem?_eq_some_iff.1 hget
    rw [leaves, leaves, number, withCondition, List.set_append_left _ _ hlt,
      Group.leaves_replace]
  | locally i =>
    rw [leaves, leaves, number, withCondition, List.set_append_right _ _ (Nat.le_add_right _ _),
      Nat.add_sub_cancel_left, Group.leaves_replace]

theorem topLevel_withCondition (p : Plan) (place : Place) (c : Condition) :
    (p.withCondition place c).topLevel = p.topLevel.map (Located.putAt place c) := by
  cases place with
  | remote i =>
    rw [topLevel, topLevel, withCondition, Group.topLevel_replace, List.map_append]
    simp only [List.map_map]
    congr 1
    refine List.map_congr_left fun l _ => ?_
    by_cases hl : l.1 = i <;> simp [Located.putAt, hl]
  | locally i =>
    rw [topLevel, topLevel, withCondition, Group.topLevel_replace, List.map_append]
    simp only [List.map_map]
    congr 1
    refine List.map_congr_left fun l _ => ?_
    by_cases hl : l.1 = i <;> simp [Located.putAt, hl]

theorem namesItems_iff : namesItems uid c = .ok true ↔ c.name = uid ∧
    (c.comparator = .equals ∨ c.comparator = .isIn) ∧ ∃ values, c.values = .ok values ∧
      values ≠ [] := by
  unfold namesItems
  split_ifs with h
  · rw [Except.bind_eq_ok_iff]
    simp [h, pure, Except.pure]
  · simp only [pure, Except.pure, Except.ok.injEq, Bool.false_eq_true, false_iff]
    exact fun ⟨hname, hcomparator, _⟩ => h ⟨hname, hcomparator⟩

theorem firstNaming_cons {l : Located} {ls : List Located} {r : Option Located} :
    firstNaming uid (l :: ls) = .ok r ↔ (namesItems uid l.2 = .ok true ∧ r = some l) ∨
      (namesItems uid l.2 = .ok false ∧ firstNaming uid ls = .ok r) := by
  rw [firstNaming, Except.bind_eq_ok_iff, or_comm]
  simp [pure, Except.pure, eq_comm]

theorem of_firstNaming {l : Located} {ls : List Located} (h : firstNaming uid ls = .ok (some l)) :
    l ∈ ls ∧ namesItems uid l.2 = .ok true := by
  induction ls with
  | nil => cases h
  | cons head ls ih =>
    rcases firstNaming_cons.1 h with ⟨hnames, hl⟩ | ⟨-, hrest⟩
    · cases hl
      exact ⟨List.mem_cons_self, hnames⟩
    · exact ⟨List.mem_cons_of_mem _ (ih hrest).1, (ih hrest).2⟩

/-- A condition that names items in the place of the first that does is the first itself. -/
theorem firstNaming_putAt {ls : List Located} (h : firstNaming uid ls = .ok (some (place, x)))
    (hplace : ∀ l ∈ ls, l.1 = place → l.2 = x) (hc : namesItems uid c = .ok true) :
    firstNaming uid (ls.map (Located.putAt place c)) = .ok (some (place, c)) := by
  obtain ⟨-, hx⟩ := of_firstNaming h
  induction ls with
  | nil => cases h
  | cons l ls ih =>
    rw [List.forall_mem_cons] at hplace
    rw [List.map_cons, firstNaming_cons]
    rcases firstNaming_cons.1 h with ⟨-, hl⟩ | ⟨hnot, hrest⟩
    · cases hl
      rw [Located.putAt, if_pos rfl]
      exact .inl ⟨hc, rfl⟩
    · have hne : l.1 ≠ place := by
        intro heq
        rw [hplace.1 heq, hx] at hnot
        cases hnot
      rw [Located.putAt, if_neg hne]
      exact .inr ⟨hnot, ih hrest hplace.2⟩

theorem itemCondition?_eq_some_iff {l : Located} : p.itemCondition? = .ok (some l) ↔
    ∃ address uid, nonEmpty? p.options.uidRequestDataAddress = some address ∧
      p.entity.uid? = some uid ∧ firstNaming uid p.topLevel = .ok (some l) := by
  unfold itemCondition?
  cases nonEmpty? p.options.uidRequestDataAddress <;> cases p.entity.uid? <;> simp

end Plan

namespace Value

/-- A list without a value in it. -/
def Hollow (v : Value) : Prop := ∃ items, v = .list items ∧ ∀ w ∈ items, w.isMissing = true

theorem exists_addressText? {v : Value} (h : v.isMissing = false) :
    ∃ text, v.addressText? = some text := by
  cases v <;> simp_all [addressText?]

end Value

namespace Condition

variable {c : Condition} {v : Value} {values : List Value}

theorem members_eq_of_values (h : c.values = .ok values) : c.members = values := by
  rw [Condition.values] at h
  split_ifs at h
  exact Except.ok.inj h

/-- The condition that asks for one value alone. -/
def only (c : Condition) (v : Value) : Condition := { c with comparator := .equals, value := v }

theorem values_only (c : Condition) (v : Value) : (c.only v).values = .ok (c.only v).members := by
  cases v with
  | str s => simp [only, Condition.values, lacksDelimiter, Comparator.isMembership]
  | _ => rfl

theorem members_only_ne_nil (hv : v.isMissing = false) (hheld : ¬v.Hollow) :
    (c.only v).members ≠ [] := by
  cases v with
  | list items =>
    simp only [Value.Hollow, Value.list.injEq, exists_eq_left', not_forall] at hheld
    obtain ⟨w, hw, hmissing⟩ := hheld
    exact List.ne_nil_of_mem (List.mem_filter.2 ⟨hw, by simpa using hmissing⟩)
  | _ => simp_all [only, members, Value.isMissing, Comparator.isMembership]

/-- A condition for one value names an item, unless that is missing or a hollow list. -/
theorem namesItems_only {uid : String} (hname : c.name = uid) (hv : v.isMissing = false)
    (hheld : ¬v.Hollow) : Plan.namesItems uid (c.only v) = .ok true :=
  Plan.namesItems_iff.2
    ⟨hname, .inl rfl, (c.only v).members, c.values_only v, members_only_ne_nil hv hheld⟩

end Condition

/-- The plan `p'` is `p` with a condition `c'` in the place of `c` that names the item `v` alone. -/
structure Plan.ForItem (p : Plan) (uid : String) (place : Place) (c : Condition) (v : Value)
    (p' : Plan) (c' : Condition) : Prop where
  query : p'.query = p.query
  target : c'.target = c.target
  leaves : p'.leaves = p.leaves.set (p.number place) c'
  topLevel : p'.topLevel = p.topLevel.map (Located.putAt place c')
  names : Plan.namesItems uid c' = .ok true
  text : c'.addressText? = .ok v.addressText?

/-- A read of items one by one: those that the condition `c` names. An equality names one item, and
no value is a hollow list. -/
structure ItemRead (d : Dialect) (q : Query) (p : Plan) (uid : String) (place : Place)
    (c : Condition) (values : List Value) : Prop where
  divided : Plan.of d q = .ok p
  identified : q.entity.uid? = some uid
  switched : p.itemCondition? = .ok (some (place, c))
  named : c.values = .ok values
  single : c.comparator = .isIn ∨ c.members = [c.value]
  held : ∀ v ∈ values, ¬v.Hollow
  compiled : ∀ plans, p.fanOut = .ok plans → ∀ p' ∈ plans, ∃ r, p'.readRequest? d = .ok r

namespace ItemRead

variable {d : Dialect} {q : Query} {p : Plan} {uid : String} {place : Place} {c : Condition}
  {values : List Value}

theorem uid?_eq (h : ItemRead d q p uid place c values) : p.entity.uid? = some uid := by
  rw [Plan.entity_eq h.divided, h.identified]

theorem firstNaming_eq (h : ItemRead d q p uid place c values) :
    Plan.firstNaming uid p.topLevel = .ok (some (place, c)) := by
  obtain ⟨-, uid', -, huid, hfirst⟩ := Plan.itemCondition?_eq_some_iff.1 h.switched
  cases h.uid?_eq.symm.trans huid
  exact hfirst

theorem mem_topLevel (h : ItemRead d q p uid place c values) : (place, c) ∈ p.topLevel :=
  (Plan.of_firstNaming h.firstNaming_eq).1

theorem namesItems (h : ItemRead d q p uid place c values) :
    Plan.namesItems uid c = .ok true := (Plan.of_firstNaming h.firstNaming_eq).2

theorem eq_of_place (h : ItemRead d q p uid place c values) {l : Located} (hl : l ∈ p.topLevel)
    (hplace : l.1 = place) : l.2 = c := by
  have hget := Plan.getElem?_leaves hl
  rw [hplace, Plan.getElem?_leaves h.mem_topLevel] at hget
  exact (Option.some.inj hget).symm

theorem isMissing_eq_false (h : ItemRead d q p uid place c values) {v : Value}
    (hv : v ∈ values) : v.isMissing = false := by
  rw [← Condition.members_eq_of_values h.named] at hv
  exact Condition.isMissing_of_mem_members hv

/-- The plan itself is for the item that it names where it names one alone. -/
theorem forItem_self (h : ItemRead d q p uid place c values) {v : Value}
    (htext : c.addressText? = .ok v.addressText?) : p.ForItem uid place c v p c where
  query := rfl
  target := rfl
  leaves := by
    obtain ⟨hlt, hget⟩ := List.getElem?_eq_some_iff.1 (Plan.getElem?_leaves h.mem_topLevel)
    have hset := List.set_getElem_self hlt
    rw [hget] at hset
    exact hset.symm
  topLevel := by
    have hself : ∀ l ∈ p.topLevel, Located.putAt place c l = l := by
      intro l hl
      unfold Located.putAt
      split_ifs with hplace
      · rw [← hplace, ← h.eq_of_place hl hplace]
      · rfl
    rw [List.map_congr_left hself, List.map_id']
  names := h.namesItems
  text := htext

theorem forItem_withCondition (h : ItemRead d q p uid place c values) {v : Value}
    (hv : v ∈ values) :
    p.ForItem uid place c v (p.withCondition place (c.only v)) (c.only v) where
  query := by cases place <;> rfl
  target := rfl
  leaves := Plan.leaves_withCondition h.mem_topLevel _
  topLevel := Plan.topLevel_withCondition p place _
  names := Condition.namesItems_only (Plan.namesItems_iff.1 h.namesItems).1
    (h.isMissing_eq_false hv) (h.held v hv)
  text := rfl

/-- There is one plan for each value, in the order of the values. -/
theorem exists_fanOut (h : ItemRead d q p uid place c values) : ∃ plans,
    p.fanOut = .ok plans ∧
      List.Forall₂ (fun v p' => ∃ c', p.ForItem uid place c v p' c') values plans := by
  obtain ⟨-, hcomparator, values', hvalues', hne⟩ := Plan.namesItems_iff.1 h.namesItems
  cases h.named.symm.trans hvalues'
  have hmembers := Condition.members_eq_of_values h.named
  unfold Plan.fanOut
  rw [h.switched]
  show ∃ plans, (if c.comparator = .isIn then _ else _) = _ ∧ _
  by_cases hin : c.comparator = .isIn
  · rw [if_pos hin, h.named]
    match values, hne with
    | [v], _ =>
      have htext : c.addressText? = .ok v.addressText? := by
        rw [Condition.addressText?, hin, h.named]
        rfl
      exact ⟨[p], rfl, .cons ⟨c, h.forItem_self htext⟩ .nil⟩
    | v :: w :: rest, _ =>
      refine ⟨_, rfl, ?_⟩
      rw [List.forall₂_map_right_iff, List.forall₂_same]
      exact fun v hv => ⟨_, h.forItem_withCondition hv⟩
  · have hvalues : values = [c.value] := by rw [← hmembers, h.single.resolve_left hin]
    have htext : c.addressText? = .ok c.value.addressText? := by
      rw [Condition.addressText?, hcomparator.resolve_right hin]
      rfl
    rw [if_neg hin, hvalues]
    exact ⟨[p], rfl, .cons ⟨c, h.forItem_self htext⟩ .nil⟩

end ItemRead

end EntityQuery
