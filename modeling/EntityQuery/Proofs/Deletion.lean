import EntityQuery.Proofs.FilterSplit
import EntityQuery.Proofs.Likeness
import EntityQuery.Write

/-!
# What a deletion targets

Without rows to write, the items to delete are those that the first condition over the identifier
names, whatever its comparator. Whether the condition accepts the items that it names is told by
its comparator and its value (`Condition.AcceptsOwnValues`): an inequality names the very item that
it excludes (`Condition.forall_accepts_iff`).
-/

namespace EntityQuery

open Number Text

namespace Value

variable {v w : Value}

theorem exists_eq_list (h : w.isList = true) : ∃ items, w = .list items := by
  cases w with
  | list items => exact ⟨items, rfl⟩
  | _ => cases h

theorem equalsFails_eq (hv : v.isMissing = false) (hw : w = v ∨ w.isList = true) :
    v.equalsFails w = v.isOutOfRange := by
  rcases hw with rfl | hw
  · cases w with
    | null => cases hv
    | _ => simp [equalsFails, isBool, incomparable, isOutOfRange]
  · obtain ⟨items, rfl⟩ := exists_eq_list hw
    cases v with
    | null => cases hv
    | _ => simp [equalsFails, isBool, incomparable, isOutOfRange]

theorem isLikeFails_eq (hv : v.isMissing = false) (hw : w = v ∨ w.isList = true) :
    v.isLikeFails w = v.isOutOfRange := by
  have heq := equalsFails_eq hv hw
  have hmissing : w.isMissing = false := by
    rcases hw with rfl | hw
    · exact hv
    · obtain ⟨items, rfl⟩ := exists_eq_list hw
      rfl
  unfold isLikeFails
  rw [if_neg (by rw [hmissing]; exact Bool.false_ne_true)]
  cases v with
  | null => cases hv
  | str s =>
    simp only
    split_ifs
    · rfl
    · exact heq
  | _ => exact heq

theorem incomparable_eq (hw : w = v ∨ w.isList = true) : v.incomparable w = v.isOutOfRange := by
  rcases hw with rfl | hw
  · exact Bool.or_self _
  · obtain ⟨items, rfl⟩ := exists_eq_list hw
    exact Bool.or_false _

theorem equals_bool_of_isOutOfRange {b : Bool} (h : v.isOutOfRange = true) :
    v.equals (.bool b) = false := by
  obtain ⟨n, rfl⟩ := exists_eq_int h
  simpa [equals, isBool, text, shown] using lower_integerText_ne n b

theorem searchFails_of_mem {ws : List Value} (hv : v.isOutOfRange = true)
    (hws : ∀ w ∈ ws, w.isMissing = false) (h : v ∈ ws) : v.searchFails ws = true := by
  induction ws with
  | nil => cases h
  | cons w ws ih =>
    rw [List.forall_mem_cons] at hws
    rw [searchFails]
    obtain ⟨n, rfl⟩ := exists_eq_int hv
    cases w with
    | null => cases hws.1
    | bool b =>
      have hmem : Value.int n ∈ ws := (List.mem_cons.1 h).resolve_left (by simp)
      rw [equals_bool_of_isOutOfRange hv, ih hws.2 hmem, Bool.not_false, Bool.and_self,
        Bool.or_true]
    | _ =>
      simp [equalsFails, isBool, incomparable, hv]

theorem null_equals (hw : w.isMissing = false) : Value.null.equals w = false := by
  cases w with
  | null => cases hw
  | _ => rfl

theorem null_isLike (hw : w.isMissing = false) : Value.null.isLike w = false := by
  rw [isLike, if_neg (by rw [hw]; exact Bool.false_ne_true)]

theorem null_isLikeFails (w : Value) : Value.null.isLikeFails w = false := by
  unfold isLikeFails
  split_ifs <;> rfl

theorem null_searchFails (ws : List Value) : Value.null.searchFails ws = false := by
  induction ws with
  | nil => rfl
  | cons w ws ih =>
    rw [searchFails, ih, Bool.and_false]
    rfl

theorem searchFails_eq_false {ws : List Value} (hv : v.isOutOfRange = false)
    (hws : ∀ w ∈ ws, w.isOutOfRange = false) : v.searchFails ws = false := by
  induction ws with
  | nil => rfl
  | cons w ws ih =>
    rw [List.forall_mem_cons] at hws
    have hfails : v.equalsFails w = false := by
      unfold equalsFails
      split
      · rfl
      · rfl
      · rw [incomparable, hv, hws.1, Bool.or_self, Bool.and_false]
    rw [searchFails, hfails, ih hws.2, Bool.and_false, Bool.or_false]

end Value

/-- Whether a comparator with the value `w` accepts `v`, which is `w` or one of its items.
Comparators of one value take a list for a text that no item has. -/
def Comparator.AcceptsNamed (comparator : Comparator) (w v : Value) : Prop :=
  match comparator with
  | .equals | .is => w.isList = false
  | .notEquals | .isNot => w.isList = true
  | .isIn => True
  | .notIn => False
  | .greaterThan => w.isList = true ∧ w.text < v.text
  | .greaterOrEqual => w.isList = true → w.text ≤ v.text
  | .lessThan => w.isList = true ∧ v.text < w.text
  | .lessOrEqual => w.isList = true → v.text ≤ w.text

namespace Condition

/-- Whether a row passes a condition that can be evaluated on it. -/
def Accepts (c : Condition) (row : Row) : Prop := c.fault? row = none ∧ c.holds row = true

/-- Whether a condition accepts every item that carries one of its values as the identifier `uid`.
A condition found under another spelling of the name sees no identifier. -/
def AcceptsOwnValues (c : Condition) (uid : String) : Prop :=
  if c.name = uid then
    ∀ v ∈ c.members, v.isOutOfRange = false ∧ c.comparator.AcceptsNamed c.value v
  else c.members = [] ∨ c.comparator ∈ [.notEquals, .isNot, .notIn]

variable {c : Condition} {v : Value}

theorem isMissing_of_mem_members (h : v ∈ c.members) : v.isMissing = false := by
  rw [members] at h
  cases hval : c.value with
  | null =>
    rw [hval] at h
    cases h
  | list items =>
    rw [hval] at h
    simpa using (List.mem_filter.1 h).2
  | str s =>
    simp only [hval] at h
    split_ifs at h with hs hm
    · cases h
    · obtain ⟨part, -, hpart⟩ := List.mem_filterMap.1 h
      split_ifs at hpart with hp
      cases hpart
      simpa [Value.isMissing] using hp
    · rw [List.mem_singleton.1 h]
      simpa [Value.isMissing] using hs
  | _ =>
    simp only [hval] at h
    rw [List.mem_singleton.1 h]
    rfl

/-- Where values are compared one by one, a condition names its value, or the items of a list. -/
theorem value_of_mem_members (hm : c.comparator.isMembership = false) (h : v ∈ c.members) :
    c.value = v ∧ v.isList = false ∨ ∃ items, c.value = .list items ∧ v ∈ items := by
  rw [members] at h
  cases hval : c.value with
  | null =>
    rw [hval] at h
    cases h
  | list items =>
    rw [hval] at h
    exact .inr ⟨items, rfl, (List.mem_filter.1 h).1⟩
  | str s =>
    simp only [hval, hm, Bool.false_eq_true, if_false] at h
    split_ifs at h with hs
    · cases h
    · rw [List.mem_singleton.1 h]
      exact .inl ⟨rfl, rfl⟩
  | _ =>
    simp only [hval] at h
    rw [List.mem_singleton.1 h]
    exact .inl ⟨rfl, rfl⟩

theorem get?_singleton (uid : String) (v : Value) : Row.get? [(uid, v)] uid = some v := by
  rw [Row.get?, List.lookup_cons_self]

variable {uid : String}

theorem accepts_iff_of_single (hname : c.name = uid) (hd : c.lacksDelimiter = false)
    (hm : c.comparator.isMembership = false) (hv : v ∈ c.members) :
    c.Accepts [(uid, v)] ↔ v.isOutOfRange = false ∧ c.comparator.AcceptsNamed c.value v := by
  have hmissing := isMissing_of_mem_members hv
  rw [Accepts, fault?, holds, hname, get?_singleton, Option.getD_some, hd]
  rcases value_of_mem_members hm hv with ⟨hval, hlist⟩ | ⟨items, hval, hmem⟩
  · have hself : v = v ∨ v.isList = true := .inl rfl
    rw [hval]
    cases hc : c.comparator with
    | isIn | notIn =>
      rw [hc] at hm
      cases hm
    | _ =>
      simp [Comparator.AcceptsNamed, Value.equalsFails_eq hmissing hself,
        Value.isLikeFails_eq hmissing hself, Value.incomparable_eq hself, hlist, hmissing,
        Value.equals_self hmissing, Value.isLike_self hmissing, Value.compare_self]
  · have hitems : Value.list items = v ∨ (Value.list items).isList = true := .inr rfl
    have hgt : v.compare (.list items) = .gt ↔ (Value.list items).text < v.text :=
      Value.compare_eq_gt_iff (.inr rfl)
    have hlt : v.compare (.list items) = .lt ↔ v.text < (Value.list items).text :=
      Value.compare_eq_lt_iff (.inr rfl)
    rw [hval]
    cases hc : c.comparator with
    | isIn | notIn =>
      rw [hc] at hm
      cases hm
    | _ =>
      simp only [Comparator.AcceptsNamed, Value.equalsFails_eq hmissing hitems,
        Value.isLikeFails_eq hmissing hitems, Value.incomparable_eq hitems, Value.isList, hmissing,
        Value.equals_list_of_mem hmem, Value.isLike_list_of_mem hmem, beq_iff_eq, bne_iff_ne,
        ne_eq, hgt, hlt, String.not_lt, Bool.false_eq_true, Bool.true_eq_false, Bool.not_false,
        Bool.not_eq_true, Bool.true_and, ite_eq_right_iff, reduceCtorEq, imp_false, forall_const,
        and_true, and_false, true_and, ↓reduceIte]

/-- A search for a value among the values of a condition meets the value itself, unless it meets
one before that cannot be compared. -/
theorem forall_accepts_iff_of_isIn (hname : c.name = uid) (hd : c.lacksDelimiter = false)
    (hc : c.comparator = .isIn) :
    (∀ v ∈ c.members, c.Accepts [(uid, v)]) ↔ ∀ v ∈ c.members, v.isOutOfRange = false := by
  constructor
  · intro h v hv
    obtain ⟨hfault, -⟩ := h v hv
    rw [fault?, hname, get?_singleton, Option.getD_some, hd, hc] at hfault
    by_contra hrange
    rw [Bool.not_eq_false] at hrange
    have hsearch := Value.searchFails_of_mem hrange (fun w hw => isMissing_of_mem_members hw) hv
    simp [hsearch] at hfault
  · intro h v hv
    have hsearch := Value.searchFails_eq_false (h v hv) h
    have hany : c.members.any v.equals = true :=
      List.any_eq_true.2 ⟨v, hv, Value.equals_self (isMissing_of_mem_members hv)⟩
    rw [Accepts, fault?, holds, hname, get?_singleton, Option.getD_some, hd, hc]
    simp [hsearch, hany]

theorem not_accepts_of_notIn (hname : c.name = uid) (hc : c.comparator = .notIn)
    (hv : v ∈ c.members) : ¬c.Accepts [(uid, v)] := by
  rintro ⟨-, h⟩
  have hany : c.members.any v.equals = true :=
    List.any_eq_true.2 ⟨v, hv, Value.equals_self (isMissing_of_mem_members hv)⟩
  rw [holds, hname, get?_singleton, Option.getD_some, hc] at h
  simp [hany] at h

/-- A condition over another name meets no value at all in the row of an identifier. -/
theorem accepts_iff_of_name_ne (hname : c.name ≠ uid) (hd : c.lacksDelimiter = false)
    (hv : v ∈ c.members) :
    c.Accepts [(uid, v)] ↔ c.comparator ∈ [Comparator.notEquals, .isNot, .notIn] := by
  have hget : Row.get? [(uid, v)] c.name = none := by
    rw [Row.get?, List.lookup_cons, beq_eq_false_iff_ne.2 hname]
    rfl
  have hvalue : c.value.isMissing = false := by
    cases hval : c.value with
    | null =>
      rw [members, hval] at hv
      cases hv
    | str s =>
      by_cases hs : s = ""
      · simp [members, hval, hs] at hv
      · simpa [Value.isMissing] using hs
    | _ => rfl
  have hany : c.members.any Value.null.equals = false := by
    rw [List.any_eq_false]
    intro w hw
    rw [Value.null_equals (isMissing_of_mem_members hw)]
    exact Bool.false_ne_true
  rw [Accepts, fault?, holds, hget, Option.getD_none, hd]
  cases hc : c.comparator <;>
    simp [Value.equalsFails, Value.null_equals hvalue, Value.null_isLike hvalue,
      Value.null_isLikeFails, Value.null_searchFails, hany, Value.isMissing]

/-- Whether a condition accepts the values that it names is told by its comparator. -/
theorem forall_accepts_iff (hd : c.lacksDelimiter = false) :
    (∀ v ∈ c.members, c.Accepts [(uid, v)]) ↔ c.AcceptsOwnValues uid := by
  unfold AcceptsOwnValues
  by_cases hname : c.name = uid
  · rw [if_pos hname]
    by_cases hin : c.comparator = .isIn
    · rw [forall_accepts_iff_of_isIn hname hd hin, hin]
      exact forall₂_congr fun v _ => (and_iff_left trivial).symm
    · by_cases hnot : c.comparator = .notIn
      · refine forall₂_congr fun v hv => ⟨fun h => ?_, fun ⟨_, h⟩ => ?_⟩
        · exact absurd h (not_accepts_of_notIn hname hnot hv)
        · rw [hnot] at h
          exact h.elim
      · have hm : c.comparator.isMembership = false := by
          cases hc : c.comparator <;> simp_all [Comparator.isMembership]
        exact forall₂_congr fun v hv => accepts_iff_of_single hname hd hm hv
  · rw [if_neg hname]
    constructor
    · intro h
      cases hmembers : c.members with
      | nil => exact .inl rfl
      | cons v vs =>
        have hv : v ∈ c.members := by rw [hmembers]; exact List.mem_cons_self
        exact .inr ((accepts_iff_of_name_ne hname hd hv).1 (h v hv))
    · rintro (hnil | hc) v hv
      · rw [hnil] at hv
        cases hv
      · exact (accepts_iff_of_name_ne hname hd hv).2 hc

end Condition

namespace Query

/-- The request that deletes one item. -/
def deletion (q : Query) (d : Dialect) (uid : Value) : Except Error Request :=
  match d with
  | .graphql => do
    let name ← mutationName q.entity "graphql_delete_mutation" (·.graphqlDeleteMutation)
    let field ← uidField q.entity
    pure (Graphql.request q.entity.options (Graphql.mutationDocument name [(field, uid)] [field]))
  | d => do
    let row := (q.entity.uid?.map fun name => (name, uid)).toList
    let uri ← itemUri d q.entity uid row q.entity.options.deleteRequestDataAddress
    pure { method := "DELETE", uri := uri, headers := [("Accept", "application/json")] }

/-- Deletions are one request for each identifier. -/
theorem exists_of_deletions {q : Query} {d : Dialect} {requests : List Request}
    (h : q.writeRequests d .delete = .ok requests) :
    ∃ values, q.uidValues = .ok values ∧
      List.Forall₂ (fun v r => q.deletion d v = .ok r) values requests := by
  cases d with
  | graphql =>
    obtain ⟨name, hname, h⟩ := Except.bind_eq_ok_iff.1 h
    obtain ⟨field, hfield, h⟩ := Except.bind_eq_ok_iff.1 h
    obtain ⟨values, hvalues, h⟩ := Except.bind_eq_ok_iff.1 h
    refine ⟨values, hvalues, (List.mapM_eq_ok_iff.1 h).imp fun v r hr => ?_⟩
    rw [deletion, hname, Except.bind_eq_ok_iff]
    exact ⟨name, rfl, Except.bind_eq_ok_iff.2 ⟨field, hfield, hr⟩⟩
  | _ =>
    obtain ⟨values, hvalues, h⟩ := Except.bind_eq_ok_iff.1 h
    exact ⟨values, hvalues, List.mapM_eq_ok_iff.1 h⟩

/-- Without rows that carry identifiers, those of a filter are used. -/
theorem uidValues_of_rows {q : Query} {uid : String} (huid : q.entity.uid? = some uid)
    (hrows : ∀ row ∈ q.rows, present? row uid = none) :
    q.uidValues = ((q.filters.find? uid).map Condition.values).getD (.ok []) := by
  have hnone : q.rows.filterMap (present? · uid) = [] := List.filterMap_eq_nil_iff.2 hrows
  rw [uidValues, huid]
  simp only [hnone]
  cases q.filters.find? uid <;> rfl

end Query

/-- Without rows that carry identifiers, one item is deleted for each value of the first condition
over the identifier. The condition accepts all these items exactly when its comparator and its value
say so: `NOT_EQUALS` and `NOT_IN` name the items that they exclude. -/
theorem delete_accepts_iff {q : Query} {d : Dialect} {uid : String} {requests : List Request}
    (huid : q.entity.uid? = some uid) (hrows : ∀ row ∈ q.rows, Query.present? row uid = none)
    (h : q.writeRequests d .delete = .ok requests) :
    q.filters.find? uid = none ∧ requests = [] ∨
      ∃ c values, q.filters.find? uid = some c ∧ c.values = .ok values ∧
        List.Forall₂ (fun v r => q.deletion d v = .ok r) values requests ∧
        ((∀ v ∈ values, c.Accepts [(uid, v)]) ↔ c.AcceptsOwnValues uid) := by
  obtain ⟨values, hvalues, hrequests⟩ := Query.exists_of_deletions h
  rw [Query.uidValues_of_rows huid hrows] at hvalues
  cases hfind : q.filters.find? uid with
  | none =>
    rw [hfind] at hvalues
    cases hvalues
    cases hrequests
    exact .inl ⟨rfl, rfl⟩
  | some c =>
    rw [hfind] at hvalues
    rw [Option.map_some, Option.getD_some] at hvalues
    refine .inr ⟨c, values, rfl, hvalues, hrequests, ?_⟩
    rw [Condition.values] at hvalues
    split_ifs at hvalues with hd
    cases hvalues
    exact Condition.forall_accepts_iff (by simpa using hd)

def orderCondition (comparator : Comparator) (value : Value) : Condition where
  target := .attribute { name := "ID", dataAddress := "ID", dataType := .integer }
  comparator := comparator
  value := value

def orderQuery (comparator : Comparator) (value : Value) : Query where
  entity :=
    { name := "Order", dataAddress := "Orders", uidName := some "ID"
      attributes := [{ name := "ID", dataAddress := "ID", dataType := .integer }] }
  filters := .mk .and [.condition (orderCondition comparator value)] []

def orderDeletion (uri : String) : Request where
  method := "DELETE"
  uri := uri
  headers := [("Accept", "application/json")]

theorem delete_accepts_isIn :
    (orderQuery .isIn (.str "4, 5")).writeRequests .odata2 .delete =
      .ok [orderDeletion "Orders(4)", orderDeletion "Orders(5)"] ∧
    ∀ v ∈ [Value.str "4", .str "5"], (orderCondition .isIn (.str "4, 5")).Accepts [("ID", v)] := by
  have h : (orderQuery .isIn (.str "4, 5")).writeRequests .odata2 .delete =
      .ok [orderDeletion "Orders(4)", orderDeletion "Orders(5)"] := by decide +kernel
  have hvalues : (orderCondition .isIn (.str "4, 5")).values =
      .ok [.str "4", .str "5"] := by decide +kernel
  have hfound : (orderQuery .isIn (.str "4, 5")).filters.find? "ID" =
      some (orderCondition .isIn (.str "4, 5")) := List.find?_cons_of_pos (by decide +kernel)
  have hown : (orderCondition .isIn (.str "4, 5")).AcceptsOwnValues "ID" := by
    unfold Condition.AcceptsOwnValues
    rw [if_pos (by rfl)]
    exact fun v hv => ⟨by revert v; decide +kernel, trivial⟩
  refine ⟨h, ?_⟩
  rcases delete_accepts_iff rfl (fun _ hrow => absurd hrow List.not_mem_nil) h with
    ⟨-, hnil⟩ | ⟨c, values, hfind, hc, -, haccepts⟩
  · cases hnil
  · cases hfound.symm.trans hfind
    cases hvalues.symm.trans hc
    exact haccepts.2 hown

/-- The order that a filter excludes is the one that is deleted. -/
theorem delete_excluded_order :
    (orderQuery .notEquals (.int 5)).writeRequests .odata2 .delete =
      .ok [orderDeletion "Orders(5)"] ∧
    (orderQuery .notEquals (.int 5)).filters.leaves = [orderCondition .notEquals (.int 5)] ∧
    (orderQuery .notEquals (.int 5)).deletion .odata2 (.int 5) = .ok (orderDeletion "Orders(5)") ∧
    ¬(orderCondition .notEquals (.int 5)).Accepts [("ID", .int 5)] := by
  refine ⟨by decide +kernel, rfl, by decide +kernel, ?_⟩
  unfold Condition.Accepts
  decide +kernel

end EntityQuery
