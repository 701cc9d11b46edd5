import EntityQuery.Proofs.FilterSplit
import EntityQuery.Remote.Parameters

/-!
# Conditions that are sent one by one

Styles without groups send the conditions of a group one by one, whatever joins them. What a split
sends can be sent as it is (`Group.sendable_remote`), and without groups only what has at most one
member may be joined by another operator than `and` (`Group.members_of_sendable`). So what is sent
says of a row what its conditions say of it together, and no alternative is lost
(`sent_test_iff`).
-/

namespace EntityQuery

/-- Whether a row meets a condition that can be evaluated on it. -/
def Condition.test (row : Row) (c : Condition) : Except Error Bool :=
  match c.fault? row with
  | some e => .error e
  | none => .ok (c.holds row)

/-- The conjunction of conditions. -/
def Group.all (cs : List Condition) : Group := .mk .and (cs.map .condition) []

theorem Condition.test_eq_ok_iff {row : Row} {c : Condition} {b : Bool} :
    c.test row = .ok b ↔ c.fault? row = none ∧ c.holds row = b := by
  rw [Condition.test]
  cases c.fault? row <;> simp

theorem Group.leaves_all (cs : List Condition) : (Group.all cs).leaves = cs := by
  have hfilters : leavesOfFilters (cs.map .condition) = cs := by
    induction cs with
    | nil => rfl
    | cons c cs ih => simp [leavesOfFilters, Filter.leaves, ih]
  simp [Group.all, Group.leaves, leavesOfGroups, hfilters]

section

variable {t : FilterStyle} {op : LogicalOperator} {fs : List Filter} {gs : List Group}

theorem filtersSendable_remote {s : Split (List Filter)} (h : splitFilters t fs = .ok s) :
    filtersSendable t s.remote = .ok true := by
  induction fs generalizing s with
  | nil =>
    cases h
    rfl
  | cons f fs ih =>
    obtain ⟨rest, hrest, ⟨hf, rfl | rfl⟩ | rfl⟩ := splitFilters_cons h <;> have ih := ih hrest
    · rw [filtersSendable, Except.bind_of_ok _ hf]
      exact ih
    · rw [filtersSendable, Except.bind_of_ok _ hf]
      exact ih
    · exact ih

theorem groupsSendable_remote {s : Split (List Group)} (h : splitGroups t gs = .ok s) :
    groupsSendable t s.remote = .ok true := by
  induction gs generalizing s with
  | nil =>
    cases h
    rfl
  | cons g gs ih =>
    obtain ⟨rest, hrest, ⟨-, rfl⟩ | ⟨-, hg, rfl⟩ | ⟨-, -, rfl⟩⟩ := splitGroups_cons h <;>
      have ih := ih hrest
    · exact ih
    · rw [groupsSendable, Except.bind_of_ok _ hg]
      exact ih
    · exact ih

theorem groupsSendable_singleton {g : Group} :
    groupsSendable t [g] = .ok true ↔ g.sendable t = .ok true := by
  rw [groupsSendable, Except.bind_eq_ok_iff]
  constructor
  · rintro ⟨_ | _, hg, h⟩
    · cases h
    · exact hg
  · exact fun hg => ⟨true, hg, rfl⟩

theorem filtersSendable_iff :
    filtersSendable t fs = .ok true ↔ ∀ f ∈ fs, f.sendable t = .ok true := by
  induction fs with
  | nil => exact iff_of_true rfl (List.forall_mem_nil _)
  | cons f fs ih =>
    rw [filtersSendable, Except.bind_eq_ok_iff, List.forall_mem_cons, ← ih]
    constructor
    · rintro ⟨_ | _, hf, h⟩
      · cases h
      · exact ⟨hf, h⟩
    · exact fun ⟨hf, hfs⟩ => ⟨true, hf, hfs⟩

theorem Group.sendable_and (hfs : filtersSendable t fs = .ok true)
    (hgs : groupsSendable t gs = .ok true) : (Group.mk .and fs gs).sendable t = .ok true := by
  by_cases hnest : ∃ g, fs = [] ∧ gs = [g]
  · obtain ⟨g, rfl, rfl⟩ := hnest
    rw [Group.sendable]
    exact groupsSendable_singleton.1 hgs
  · have hop : t.checkOperator .and = .ok () := by simp [FilterStyle.checkOperator]
    rw [Group.sendable, if_neg (by simp), Except.bind_of_ok _ hop, Except.bind_of_ok _ hfs]
    · exact hgs
    · exact fun g hf hg => hnest ⟨g, hf, hg⟩

/-- What a split sends can be sent as it is. -/
theorem Group.sendable_remote {g : Group} {s : Split Group} (h : g.split t = .ok s) :
    s.remote.sendable t = .ok true := by
  have hempty : Group.empty.sendable t = .ok true := Group.sendable_and rfl rfl
  rcases Group.split_cases h with ⟨-, rfl⟩ | ⟨hg, rfl⟩ | rfl | ⟨fs, gs, fs', gs', -, hfs, hgs, rfl⟩
  · exact hempty
  · exact hg
  · exact hempty
  · exact Group.sendable_and (filtersSendable_remote hfs) (groupsSendable_remote hgs)

theorem Group.members_of_sendable (h : (Group.mk op fs gs).sendable t = .ok true) :
    (t.supportsGroups = false → op = .and ∨ fs.length + gs.length ≤ 1) ∧
      filtersSendable t fs = .ok true ∧ groupsSendable t gs = .ok true := by
  by_cases hnest : ∃ g, fs = [] ∧ gs = [g]
  · obtain ⟨g, rfl, rfl⟩ := hnest
    rw [Group.sendable] at h
    exact ⟨fun _ => .inr (by simp), rfl, groupsSendable_singleton.2 h⟩
  · rw [Group.sendable] at h
    case x_1 => exact fun g hf hg => hnest ⟨g, hf, hg⟩
    split_ifs at h with hmany
    · cases h
    · obtain ⟨-, -, h⟩ := Except.bind_eq_ok_iff.1 h
      obtain ⟨sent, hfs, h⟩ := Except.bind_eq_ok_iff.1 h
      have hfew (ht : t.supportsGroups = false) : op = .and ∨ fs.length + gs.length ≤ 1 := by
        simp only [ht, Bool.not_false, Bool.true_and, Bool.and_eq_true, bne_iff_ne,
          decide_eq_true_eq, not_and] at hmany
        by_cases hop : op = .and
        · exact .inl hop
        · exact .inr (Nat.not_lt.1 (hmany hop))
      cases sent with
      | false => cases h
      | true => exact ⟨hfew, hfs, h⟩

/-- An operator makes no difference where it joins nothing. -/
theorem LogicalOperator.combine_of_few {results : List Bool}
    (h : op = .and ∨ results.length ≤ 1) : op.combine results = results.all id := by
  rcases h with rfl | hfew
  · exact combine_and results
  · match results, hfew with
    | [], _ => exact combine_nil op
    | [b], _ => rw [combine_singleton]; simp

variable (row : Row)

theorem length_filterResults (fs : List Filter) : (filterResults row fs).length = fs.length := by
  induction fs with
  | nil => rfl
  | cons f fs ih => simp [filterResults, ih]

theorem length_groupResults_le (gs : List Group) : (groupResults row gs).length ≤ gs.length := by
  induction gs with
  | nil => simp [groupResults]
  | cons g gs ih =>
    rw [groupResults]
    split_ifs <;> simp <;> omega

mutual

theorem Group.holds_of_sendable (ht : t.supportsGroups = false) : ∀ g : Group,
    g.sendable t = .ok true → g.holds row = g.leaves.all (·.holds row)
  | .mk op fs gs, h => by
    obtain ⟨hfew, hfs, hgs⟩ := Group.members_of_sendable h
    have hlength : op = .and ∨ (filterResults row fs ++ groupResults row gs).length ≤ 1 := by
      have hfilters := length_filterResults row fs
      have hgroups := length_groupResults_le row gs
      refine (hfew ht).imp_right fun hfew => ?_
      rw [List.length_append]
      omega
    rw [Group.holds, LogicalOperator.combine_of_few hlength, Group.leaves, List.all_append,
      List.all_append, filterResults_of_sendable ht fs hfs, groupResults_of_sendable ht gs hgs]

theorem Filter.holds_of_sendable (ht : t.supportsGroups = false) : ∀ f : Filter,
    f.sendable t = .ok true → f.holds row = f.leaves.all (·.holds row)
  | .condition c, _ => by simp [Filter.holds, Filter.leaves]
  | .compound g _, h => Group.holds_of_sendable ht g h

theorem filterResults_of_sendable (ht : t.supportsGroups = false) : ∀ fs : List Filter,
    filtersSendable t fs = .ok true →
      (filterResults row fs).all id = (leavesOfFilters fs).all (·.holds row)
  | [], _ => rfl
  | f :: fs, h => by
    rw [filtersSendable] at h
    obtain ⟨sent, hf, h⟩ := Except.bind_eq_ok_iff.1 h
    cases sent with
    | false => cases h
    | true =>
      rw [filterResults, leavesOfFilters, List.all_cons, List.all_append,
        ← Filter.holds_of_sendable ht f hf, ← filterResults_of_sendable ht fs h, id]

theorem groupResults_of_sendable (ht : t.supportsGroups = false) : ∀ gs : List Group,
    groupsSendable t gs = .ok true →
      (groupResults row gs).all id = (leavesOfGroups gs).all (·.holds row)
  | [], _ => rfl
  | g :: gs, h => by
    rw [groupsSendable] at h
    obtain ⟨sent, hg, h⟩ := Except.bind_eq_ok_iff.1 h
    cases sent with
    | false => cases h
    | true =>
      have hrest := groupResults_of_sendable ht gs h
      rw [groupResults, leavesOfGroups, List.all_append]
      split_ifs with hempty
      · rw [Group.leaves_of_isEmpty g hempty, hrest]
        rfl
      · rw [List.all_cons, hrest, Group.holds_of_sendable ht g hg, id]

end

/-- What styles without groups send for a group depends on its conditions alone. -/
theorem Group.parameters_congr (ht : t.supportsGroups = false) {g g' : Group}
    (h : g.leaves = g'.leaves) : g.parameters t = g'.parameters t := by
  cases t with
  | urlParameters => simp only [Group.parameters, h]
  | arguments => simp only [Group.parameters, Group.arguments, h]
  | odata2 | odata4 => cases ht

/-- A row passes what a style without groups sends exactly when it passes each of its conditions,
and what is sent for it is what is sent for their conjunction. -/
theorem sent_test_iff {g : Group} {s : Split Group} (ht : t.supportsGroups = false)
    (h : g.split t = .ok s) :
    (s.remote.test row = .ok true ↔ ∀ c ∈ s.remote.leaves, c.test row = .ok true) ∧
      s.remote.parameters t = (Group.all s.remote.leaves).parameters t := by
  refine ⟨?_, Group.parameters_congr ht (Group.leaves_all _).symm⟩
  have hholds := Group.holds_of_sendable row ht s.remote (Group.sendable_remote h)
  simp only [Group.test_eq_ok_iff, Condition.test_eq_ok_iff, hholds, List.all_eq_true,
    ← forall_and]

end

/-- Alternatives without a choice, at several depths, beside two real ones. -/
def alternatives : Group :=
  let is (name : String) (n : Int) : Filter := .condition
    { target := .attribute
        { name := name, dataAddress := name, options := { filterRemote := some true } }
      value := .int n }
  .mk .and [is "a" 1, .compound (.mk .xor [is "b" 2] []) false]
    [.mk .or [] [.mk .xor [] [.mk .and [is "c" 3, is "d" 4] []]], .mk .or [is "a" 1, is "b" 3] [],
      .mk .xor [.compound (.mk .and [is "e" 5] []) false] [.mk .and [] []]]

theorem sent_test_alternatives : ∃ s, alternatives.split .urlParameters = .ok s ∧
    s.remote.leaves.length = 4 ∧ s.locally.leaves.length = 3 ∧
    (s.remote.test [("b", .int 2)] = .ok true ↔
      ∀ c ∈ s.remote.leaves, c.test [("b", .int 2)] = .ok true) ∧
    s.remote.parameters .urlParameters =
      (Group.all s.remote.leaves).parameters .urlParameters := by
  have h : alternatives.split .urlParameters = .ok _ := rfl
  exact ⟨_, h, rfl, rfl, sent_test_iff _ rfl h⟩

end EntityQuery
