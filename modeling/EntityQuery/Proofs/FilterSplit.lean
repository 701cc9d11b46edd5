import EntityQuery.Filter.Evaluation
import EntityQuery.Proofs.Outcome
import EntityQuery.Remote.FilterStyle

/-!
# Nothing is lost where a filter is split

A row meets a group exactly when it meets the part that is sent and the part that is left for
later (`holds_split`), and the two parts hold the conditions of the group and no others
(`forall_leaves_split`), so evaluating them fails on the rows that evaluating the group fails on.

The group is flattened first and filters that stay behind are marked, neither of which changes
what a group says of a row. A conjunction is then divided member by member: each member lands on
one side or on both.
-/

namespace EntityQuery

variable (row : Row)

theorem LogicalOperator.combine_nil (op : LogicalOperator) : op.combine [] = true := by
  simp [combine]

theorem LogicalOperator.combine_singleton (op : LogicalOperator) (b : Bool) :
    op.combine [b] = b := by
  cases op <;> cases b <;> rfl

theorem LogicalOperator.combine_and (results : List Bool) :
    LogicalOperator.and.combine results = results.all id := by
  cases results <;> simp [combine]

mutual

theorem Group.leaves_of_isEmpty : ∀ g : Group, g.isEmpty = true → g.leaves = []
  | .mk _ fs gs, h => by
    simp only [Group.isEmpty, Bool.and_eq_true, List.isEmpty_iff] at h
    rw [Group.leaves, h.1, leavesOfFilters, leavesOfGroups_of_allEmpty gs h.2, List.append_nil]

theorem leavesOfGroups_of_allEmpty : ∀ gs : List Group, Group.allEmpty gs = true →
    leavesOfGroups gs = []
  | [], _ => rfl
  | g :: gs, h => by
    simp only [Group.allEmpty, Bool.and_eq_true] at h
    rw [leavesOfGroups, Group.leaves_of_isEmpty g h.1, leavesOfGroups_of_allEmpty gs h.2,
      List.append_nil]

end

theorem groupResults_of_allEmpty : ∀ gs : List Group, Group.allEmpty gs = true →
    groupResults row gs = []
  | [], _ => rfl
  | g :: gs, h => by
    simp only [Group.allEmpty, Bool.and_eq_true] at h
    rw [groupResults, if_pos h.1, groupResults_of_allEmpty gs h.2]

theorem Group.holds_of_isEmpty {g : Group} (h : g.isEmpty = true) : g.holds row = true := by
  cases g with
  | mk op fs gs =>
    simp only [Group.isEmpty, Bool.and_eq_true, List.isEmpty_iff] at h
    rw [Group.holds, h.1, filterResults, groupResults_of_allEmpty row gs h.2, List.append_nil,
      LogicalOperator.combine_nil]

theorem Group.holds_singleton (op : LogicalOperator) (g : Group) :
    (Group.mk op [] [g]).holds row = g.holds row := by
  by_cases h : g.isEmpty = true
  · rw [Group.holds_of_isEmpty row h]
    exact Group.holds_of_isEmpty row (by simp [Group.isEmpty, Group.allEmpty, h])
  · rw [Group.holds, filterResults, groupResults, if_neg h, groupResults, List.nil_append,
      LogicalOperator.combine_singleton]

/-- Redundant nesting means nothing, whatever the operators: one member decides for its group. -/
theorem Group.holds_flatten (g : Group) : g.flatten.holds row = g.holds row := by
  fun_induction Group.flatten g with
  | case1 op g ih => rw [ih, Group.holds_singleton]
  | case2 => rfl

theorem Group.leaves_flatten (g : Group) : g.flatten.leaves = g.leaves := by
  fun_induction Group.flatten g with
  | case1 op g ih =>
    rw [ih, Group.leaves, leavesOfFilters, leavesOfGroups, leavesOfGroups, List.nil_append,
      List.append_nil]
  | case2 => rfl

mutual

theorem Group.isEmpty_markLocal : ∀ g : Group, g.markLocal.isEmpty = g.isEmpty
  | .mk _ fs gs => by
    rw [Group.markLocal, Group.isEmpty, Group.isEmpty, allEmpty_markGroups gs]
    cases fs <;> rfl

theorem allEmpty_markGroups : ∀ gs : List Group,
    Group.allEmpty (markGroups gs) = Group.allEmpty gs
  | [] => rfl
  | g :: gs => by
    rw [markGroups, Group.allEmpty, Group.allEmpty, Group.isEmpty_markLocal g,
      allEmpty_markGroups gs]

end

mutual

theorem Group.holds_markLocal : ∀ g : Group, g.markLocal.holds row = g.holds row
  | .mk op fs gs => by
    rw [Group.markLocal, Group.holds, Group.holds, filterResults_markFilters fs,
      groupResults_markGroups gs]

theorem Filter.holds_markLocal : ∀ f : Filter, f.markLocal.holds row = f.holds row
  | .condition c => rfl
  | .compound g _ => by
    rw [Filter.markLocal, Filter.holds, Filter.holds, Group.holds_markLocal g]

theorem filterResults_markFilters : ∀ fs : List Filter,
    filterResults row (markFilters fs) = filterResults row fs
  | [] => rfl
  | f :: fs => by
    rw [markFilters, filterResults, filterResults, Filter.holds_markLocal f,
      filterResults_markFilters fs]

theorem groupResults_markGroups : ∀ gs : List Group,
    groupResults row (markGroups gs) = groupResults row gs
  | [] => rfl
  | g :: gs => by
    rw [markGroups, groupResults, groupResults, Group.isEmpty_markLocal g,
      Group.holds_markLocal g, groupResults_markGroups gs]

end

/-- The condition marked for evaluation after reading. -/
def Condition.markLocal (c : Condition) : Condition := { c with applyLocally := true }

mutual

theorem Group.leaves_markLocal : ∀ g : Group,
    g.markLocal.leaves = g.leaves.map Condition.markLocal
  | .mk _ fs gs => by
    rw [Group.markLocal, Group.leaves, Group.leaves, leaves_markFilters fs,
      leaves_markGroups gs, List.map_append]

theorem Filter.leaves_markLocal : ∀ f : Filter,
    f.markLocal.leaves = f.leaves.map Condition.markLocal
  | .condition c => rfl
  | .compound g _ => by
    rw [Filter.markLocal, Filter.leaves, Filter.leaves, Group.leaves_markLocal g]

theorem leaves_markFilters : ∀ fs : List Filter,
    leavesOfFilters (markFilters fs) = (leavesOfFilters fs).map Condition.markLocal
  | [] => rfl
  | f :: fs => by
    rw [markFilters, leavesOfFilters, leavesOfFilters, Filter.leaves_markLocal f,
      leaves_markFilters fs, List.map_append]

theorem leaves_markGroups : ∀ gs : List Group,
    leavesOfGroups (markGroups gs) = (leavesOfGroups gs).map Condition.markLocal
  | [] => rfl
  | g :: gs => by
    rw [markGroups, leavesOfGroups, leavesOfGroups, Group.leaves_markLocal g,
      leaves_markGroups gs, List.map_append]

end

theorem splitFilters_eq_ok {t : FilterStyle} {f : Filter} {fs : List Filter}
    {s : Split (List Filter)} (h : splitFilters t (f :: fs) = .ok s) :
    ∃ rest, splitFilters t fs = .ok rest ∧
      (f.sendable t = .ok true ∧ s = ⟨f :: rest.remote,
          if f.wantsLocal then f.markLocal :: rest.locally else rest.locally⟩ ∨
        f.sendable t = .ok false ∧ s = ⟨rest.remote, f.markLocal :: rest.locally⟩) := by
  rw [splitFilters] at h
  obtain ⟨sent, hsent, h⟩ := Except.bind_eq_ok_iff.1 h
  cases sent with
  | false =>
    obtain ⟨rest, hrest, h⟩ := Except.bind_eq_ok_iff.1 h
    cases h
    exact ⟨rest, hrest, .inr ⟨hsent, rfl⟩⟩
  | true =>
    obtain ⟨rest, hrest, h⟩ := Except.bind_eq_ok_iff.1 h
    cases h
    exact ⟨rest, hrest, .inl ⟨hsent, rfl⟩⟩

theorem splitFilters_cons {t : FilterStyle} {f : Filter} {fs : List Filter}
    {s : Split (List Filter)} (h : splitFilters t (f :: fs) = .ok s) :
    ∃ rest, splitFilters t fs = .ok rest ∧
      (f.sendable t = .ok true ∧ (s = ⟨f :: rest.remote, rest.locally⟩ ∨
          s = ⟨f :: rest.remote, f.markLocal :: rest.locally⟩) ∨
        s = ⟨rest.remote, f.markLocal :: rest.locally⟩) := by
  obtain ⟨rest, hrest, ⟨hsent, hs⟩ | ⟨-, hs⟩⟩ := splitFilters_eq_ok h
  · refine ⟨rest, hrest, .inl ⟨hsent, ?_⟩⟩
    by_cases hw : f.wantsLocal = true
    · exact .inr (by rw [hs, if_pos hw])
    · exact .inl (by rw [hs, if_neg hw])
  · exact ⟨rest, hrest, .inr hs⟩

theorem splitGroups_cons {t : FilterStyle} {g : Group} {gs : List Group}
    {s : Split (List Group)} (h : splitGroups t (g :: gs) = .ok s) :
    ∃ rest, splitGroups t gs = .ok rest ∧
      (g.isEmpty = true ∧ s = rest ∨
        g.isEmpty = false ∧ g.sendable t = .ok true ∧ s = ⟨g :: rest.remote, rest.locally⟩ ∨
        g.isEmpty = false ∧ g.sendable t = .ok false ∧
          s = ⟨rest.remote, g.markLocal :: rest.locally⟩) := by
  rw [splitGroups] at h
  by_cases he : g.isEmpty = true
  · rw [if_pos he] at h
    exact ⟨s, h, .inl ⟨he, rfl⟩⟩
  · have hf : g.isEmpty = false := by simpa using he
    rw [if_neg he] at h
    obtain ⟨sent, hsent, h⟩ := Except.bind_eq_ok_iff.1 h
    cases sent with
    | false =>
      obtain ⟨rest, hrest, h⟩ := Except.bind_eq_ok_iff.1 h
      cases h
      exact ⟨rest, hrest, .inr (.inr ⟨hf, hsent, rfl⟩)⟩
    | true =>
      obtain ⟨rest, hrest, h⟩ := Except.bind_eq_ok_iff.1 h
      cases h
      exact ⟨rest, hrest, .inr (.inl ⟨hf, hsent, rfl⟩)⟩

/-- A member lands on one side or on both, and both sides must hold. -/
theorem all_filterResults_split {t : FilterStyle} {fs : List Filter} {s : Split (List Filter)}
    (h : splitFilters t fs = .ok s) :
    (filterResults row fs).all id =
      ((filterResults row s.remote).all id && (filterResults row s.locally).all id) := by
  induction fs generalizing s with
  | nil =>
    cases h
    rfl
  | cons f fs ih =>
    obtain ⟨rest, hrest, ⟨-, rfl | rfl⟩ | rfl⟩ := splitFilters_cons h <;>
      simp only [filterResults, List.all_cons, id_eq, ih hrest, Filter.holds_markLocal] <;>
      cases f.holds row <;> simp

theorem all_groupResults_split {t : FilterStyle} {gs : List Group} {s : Split (List Group)}
    (h : splitGroups t gs = .ok s) :
    (groupResults row gs).all id =
      ((groupResults row s.remote).all id && (groupResults row s.locally).all id) := by
  induction gs generalizing s with
  | nil =>
    cases h
    rfl
  | cons g gs ih =>
    obtain ⟨rest, hrest, ⟨he, rfl⟩ | ⟨he, -, rfl⟩ | ⟨he, -, rfl⟩⟩ := splitGroups_cons h
    · rw [groupResults, if_pos he, ih hrest]
    · simp only [groupResults, he, Bool.false_eq_true, if_false, List.all_cons, id_eq, ih hrest,
        Bool.and_assoc]
    · simp only [groupResults, he, Group.isEmpty_markLocal, Bool.false_eq_true, if_false,
        List.all_cons, id_eq, ih hrest, Group.holds_markLocal]
      cases g.holds row <;> simp

section Leaves

variable {P : Condition → Prop} (hP : ∀ c : Condition, P c.markLocal ↔ P c)

include hP

theorem forall_leaves_markLocal {cs : List Condition} :
    (∀ c ∈ cs.map Condition.markLocal, P c) ↔ ∀ c ∈ cs, P c := by
  simp only [List.mem_map, forall_exists_index, and_imp, forall_apply_eq_imp_iff₂, hP]

theorem forall_leavesOfFilters_split {t : FilterStyle} {fs : List Filter}
    {s : Split (List Filter)} (h : splitFilters t fs = .ok s) :
    (∀ c ∈ leavesOfFilters fs, P c) ↔
      (∀ c ∈ leavesOfFilters s.remote, P c) ∧ ∀ c ∈ leavesOfFilters s.locally, P c := by
  induction fs generalizing s with
  | nil =>
    cases h
    simp [leavesOfFilters]
  | cons f fs ih =>
    obtain ⟨rest, hrest, ⟨-, rfl | rfl⟩ | rfl⟩ := splitFilters_cons h <;>
      simp only [leavesOfFilters, List.forall_mem_append, ih hrest, Filter.leaves_markLocal,
        forall_leaves_markLocal hP] <;>
      tauto

theorem forall_leavesOfGroups_split {t : FilterStyle} {gs : List Group}
    {s : Split (List Group)} (h : splitGroups t gs = .ok s) :
    (∀ c ∈ leavesOfGroups gs, P c) ↔
      (∀ c ∈ leavesOfGroups s.remote, P c) ∧ ∀ c ∈ leavesOfGroups s.locally, P c := by
  induction gs generalizing s with
  | nil =>
    cases h
    simp [leavesOfGroups]
  | cons g gs ih =>
    obtain ⟨rest, hrest, ⟨he, rfl⟩ | ⟨he, -, rfl⟩ | ⟨he, -, rfl⟩⟩ := splitGroups_cons h
    · rw [leavesOfGroups, Group.leaves_of_isEmpty g he, List.nil_append, ih hrest]
    all_goals
      simp only [leavesOfGroups, List.forall_mem_append, ih hrest, Group.leaves_markLocal,
        forall_leaves_markLocal hP]
      tauto

end Leaves

theorem Group.split_eq_ok {t : FilterStyle} {g : Group} {s : Split Group}
    (h : g.split t = .ok s) :
    g.flatten.isEmpty = true ∧ s = ⟨.empty, .empty⟩ ∨
      g.flatten.operator = .and ∧ (∃ fs gs, splitFilters t g.flatten.filters = .ok fs ∧
        splitGroups t g.flatten.groups = .ok gs ∧
        s = ⟨.mk .and fs.remote gs.remote, .mk .and fs.locally gs.locally⟩) ∨
      g.flatten.operator ≠ .and ∧ (g.flatten.sendable t = .ok true ∧ s = ⟨g.flatten, .empty⟩ ∨
        g.flatten.sendable t = .ok false ∧ s = ⟨.empty, g.flatten.markLocal⟩) := by
  simp only [Group.split] at h
  by_cases he : g.flatten.isEmpty = true
  · rw [if_pos he] at h
    cases h
    exact .inl ⟨he, rfl⟩
  · rw [if_neg he] at h
    obtain ⟨-, -, h⟩ := Except.bind_eq_ok_iff.1 h
    split at h
    · rename_i hop
      obtain ⟨fs, hfs, h⟩ := Except.bind_eq_ok_iff.1 h
      obtain ⟨gs, hgs, h⟩ := Except.bind_eq_ok_iff.1 h
      cases h
      exact .inr (.inl ⟨hop, fs, gs, hfs, hgs, rfl⟩)
    · rename_i hop
      obtain ⟨sent, hsent, h⟩ := Except.bind_eq_ok_iff.1 h
      cases sent <;> cases h
      · exact .inr (.inr ⟨hop, .inr ⟨hsent, rfl⟩⟩)
      · exact .inr (.inr ⟨hop, .inl ⟨hsent, rfl⟩⟩)

/-- What a split gives: nothing on either side for an empty group, one side for a group that
goes as a whole, and both sides member by member for a conjunction. -/
theorem Group.split_cases {t : FilterStyle} {g : Group} {s : Split Group}
    (h : g.split t = .ok s) :
    g.flatten.isEmpty = true ∧ s = ⟨.empty, .empty⟩ ∨
      g.flatten.sendable t = .ok true ∧ s = ⟨g.flatten, .empty⟩ ∨
      s = ⟨.empty, g.flatten.markLocal⟩ ∨
      ∃ fs gs fs' gs', g.flatten = .mk .and fs gs ∧ splitFilters t fs = .ok fs' ∧
        splitGroups t gs = .ok gs' ∧
        s = ⟨.mk .and fs'.remote gs'.remote, .mk .and fs'.locally gs'.locally⟩ := by
  rcases Group.split_eq_ok h with hempty | ⟨hop, fs', gs', hfs, hgs, hs⟩ | ⟨-, hsent | ⟨-, hs⟩⟩
  · exact .inl hempty
  · refine .inr (.inr (.inr ⟨_, _, fs', gs', ?_, hfs, hgs, hs⟩))
    rw [← hop]
    cases g.flatten
    rfl
  · exact .inr (.inl hsent)
  · exact .inr (.inr (.inl hs))

/-- A condition that stands alone is sent, left for later, or both. -/
theorem Group.split_single {t : FilterStyle} {g : Group} {c : Condition} {s : Split Group}
    (hg : g.flatten = .mk .and [.condition c] []) (h : g.split t = .ok s) :
    s = ⟨.mk .and [.condition c] [], .empty⟩ ∨
      s = ⟨.mk .and [.condition c] [], .mk .and [.condition c.markLocal] []⟩ ∨
      s = ⟨.empty, .mk .and [.condition c.markLocal] []⟩ := by
  rcases Group.split_cases h with ⟨he, -⟩ | ⟨-, rfl⟩ | rfl | ⟨fs, gs, fs', gs', hmk, hfs, hgs, rfl⟩
  · rw [hg] at he
    cases he
  · rw [hg]
    exact .inl rfl
  · rw [hg]
    exact .inr (.inr rfl)
  · rw [hg] at hmk
    cases hmk
    cases hgs
    obtain ⟨rest, hrest, ⟨-, rfl | rfl⟩ | rfl⟩ := splitFilters_cons hfs <;> cases hrest
    · exact .inl rfl
    · exact .inr (.inl rfl)
    · exact .inr (.inr rfl)

theorem Group.holds_empty : Group.empty.holds row = true := rfl

/-- The two parts together ask for what the group asks for. -/
theorem Group.holds_split {t : FilterStyle} {g : Group} {s : Split Group}
    (h : g.split t = .ok s) : g.holds row = (s.remote.holds row && s.locally.holds row) := by
  rw [← Group.holds_flatten]
  rcases Group.split_cases h with ⟨he, rfl⟩ | ⟨-, rfl⟩ | rfl |
    ⟨fs, gs, fs', gs', hg, hfs, hgs, rfl⟩
  · rw [Group.holds_of_isEmpty row he, Group.holds_empty, Bool.and_self]
  · rw [Group.holds_empty, Bool.and_true]
  · rw [Group.holds_markLocal, Group.holds_empty, Bool.true_and]
  · rw [hg]
    simp only [Group.holds, LogicalOperator.combine_and, List.all_append,
      all_filterResults_split row hfs, all_groupResults_split row hgs]
    ac_rfl

/-- The two parts hold the conditions of the group, marked or not, and no others. -/
theorem forall_leaves_split {t : FilterStyle} {g : Group} {s : Split Group}
    {P : Condition → Prop} (hP : ∀ c : Condition, P c.markLocal ↔ P c) (h : g.split t = .ok s) :
    (∀ c ∈ g.leaves, P c) ↔
      (∀ c ∈ s.remote.leaves, P c) ∧ ∀ c ∈ s.locally.leaves, P c := by
  rw [← Group.leaves_flatten]
  have hempty : ∀ c ∈ Group.empty.leaves, P c := by simp [Group.empty, Group.leaves,
    leavesOfFilters, leavesOfGroups]
  rcases Group.split_cases h with ⟨he, rfl⟩ | ⟨-, rfl⟩ | rfl |
    ⟨fs, gs, fs', gs', hg, hfs, hgs, rfl⟩
  · rw [Group.leaves_of_isEmpty _ he]
    exact ⟨fun _ => ⟨hempty, hempty⟩, fun _ => by simp⟩
  · exact ⟨fun hc => ⟨hc, hempty⟩, fun hc => hc.1⟩
  · rw [Group.leaves_markLocal, forall_leaves_markLocal hP]
    exact ⟨fun hc => ⟨hempty, hc⟩, fun hc => hc.2⟩
  · rw [hg]
    simp only [Group.leaves, List.forall_mem_append, forall_leavesOfFilters_split hP hfs,
      forall_leavesOfGroups_split hP hgs]
    tauto

theorem Condition.fault?_markLocal (c : Condition) : c.markLocal.fault? row = c.fault? row := rfl

theorem Group.fault?_eq_none_iff (g : Group) :
    g.fault? row = none ↔ ∀ c ∈ g.leaves, c.fault? row = none :=
  List.findSome?_eq_none_iff

theorem Group.test_eq_ok_iff {g : Group} {b : Bool} :
    g.test row = .ok b ↔ (∀ c ∈ g.leaves, c.fault? row = none) ∧ g.holds row = b := by
  rw [← Group.fault?_eq_none_iff, Group.test]
  cases g.fault? row <;> simp

/-- A row passes a group exactly when it passes both parts of its split, where a row that cannot
be tested does not pass. -/
theorem test_split_iff {t : FilterStyle} {g : Group} {s : Split Group} (h : g.split t = .ok s) :
    g.test row = .ok true ↔ s.remote.test row = .ok true ∧ s.locally.test row = .ok true := by
  simp only [Group.test_eq_ok_iff, Group.holds_split row h, Bool.and_eq_true]
  rw [forall_leaves_split (fun c => by rw [Condition.fault?_markLocal]) h]
  tauto

/-- A conjunction with a member of every kind: a condition that is sent and tested again, one that
stays, an exclusive or inside a filter, a nested alternative and an empty group. -/
def mixedGroup : Group :=
  let sent : AttributeOptions := { filterRemote := some true, filterLocally := some true }
  let status : Target := .attribute { name := "status", dataAddress := "s", options := sent }
  let is (field : String) (n : Int) : Filter :=
    .condition { target := .address field, value := .int n }
  .mk .and
    [.condition { target := status, comparator := .isNot, value := .str "open" }, is "a" 1,
      .compound (.mk .xor [is "b" 2, is "c" 3] []) false]
    [.mk .or [is "a" 1] [.mk .and [is "d" 4] []], .mk .or [] []]

theorem test_split_mixedGroup :
    ∃ s, mixedGroup.split .urlParameters = .ok s ∧ s.remote.leaves.length = 1 ∧
      s.locally.leaves.length = 6 ∧
      (mixedGroup.test [("b", .int 2)] = .ok true ↔
        s.remote.test [("b", .int 2)] = .ok true ∧ s.locally.test [("b", .int 2)] = .ok true) := by
  have h : mixedGroup.split .urlParameters = .ok _ := rfl
  exact ⟨_, h, rfl, rfl, test_split_iff _ h⟩

end EntityQuery
