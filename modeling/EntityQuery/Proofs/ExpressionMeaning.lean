import EntityQuery.Proofs.ExpressionReading

/-!
# An expression means its group

Whatever is read from the expression of a group is true for the truth values of its conditions for
which the group is (`Group.exists_expression?`). Flattening and leaving out nested groups without
conditions change neither the conditions nor what operators make of them, so the chains of the
members of a group have the values of the members one by one (`Expresses`).
-/

namespace EntityQuery

mutual

/-- What a group says where `v` gives the results of its conditions by number. -/
def Group.valueFrom (v : Nat → Bool) (start : Nat) : Group → Bool
  | .mk op fs gs =>
    op.combine (filterValues v start fs ++ groupValues v (start + (leavesOfFilters fs).length) gs)

/-- What a filter says where `v` gives the results of its conditions by number. -/
def Filter.valueFrom (v : Nat → Bool) (start : Nat) : Filter → Bool
  | .condition _ => v start
  | .compound g _ => g.valueFrom v start

/-- What filters say, in order. -/
def filterValues (v : Nat → Bool) (start : Nat) : List Filter → List Bool
  | [] => []
  | f :: fs => f.valueFrom v start :: filterValues v (start + f.leaves.length) fs

/-- What the nested groups that are not empty say, in order. -/
def groupValues (v : Nat → Bool) (start : Nat) : List Group → List Bool
  | [] => []
  | g :: gs =>
    (if g.isEmpty then [] else [g.valueFrom v start]) ++ groupValues v (start + g.leaves.length) gs

end

section Rows

variable {row : Row} {v : Nat → Bool}

mutual

/-- A row gives the results of conditions, and with them a group says what it says of the row. -/
theorem Group.valueFrom_eq_holds : ∀ (g : Group) (start : Nat),
    (∀ p ∈ g.leaves.zipIdx start, v p.2 = p.1.holds row) → g.valueFrom v start = g.holds row
  | .mk op fs gs, start, h => by
    rw [Group.leaves, List.zipIdx_append, List.forall_mem_append] at h
    rw [Group.valueFrom, Group.holds, filterValues_eq_filterResults fs start h.1,
      groupValues_eq_groupResults gs _ h.2]

theorem Filter.valueFrom_eq_holds : ∀ (f : Filter) (start : Nat),
    (∀ p ∈ f.leaves.zipIdx start, v p.2 = p.1.holds row) → f.valueFrom v start = f.holds row
  | .condition c, start, h => h (c, start) (List.mem_singleton_self _)
  | .compound g _, start, h => g.valueFrom_eq_holds start h

theorem filterValues_eq_filterResults : ∀ (fs : List Filter) (start : Nat),
    (∀ p ∈ (leavesOfFilters fs).zipIdx start, v p.2 = p.1.holds row) →
      filterValues v start fs = filterResults row fs
  | [], _, _ => rfl
  | f :: fs, start, h => by
    rw [leavesOfFilters, List.zipIdx_append, List.forall_mem_append] at h
    rw [filterValues, filterResults, f.valueFrom_eq_holds start h.1,
      filterValues_eq_filterResults fs _ h.2]

theorem groupValues_eq_groupResults : ∀ (gs : List Group) (start : Nat),
    (∀ p ∈ (leavesOfGroups gs).zipIdx start, v p.2 = p.1.holds row) →
      groupValues v start gs = groupResults row gs
  | [], _, _ => rfl
  | g :: gs, start, h => by
    rw [leavesOfGroups, List.zipIdx_append, List.forall_mem_append] at h
    rw [groupValues, groupResults, g.valueFrom_eq_holds start h.1,
      groupValues_eq_groupResults gs _ h.2]
    split <;> rfl

end

end Rows

section Values

variable (v : Nat → Bool) (start : Nat)

theorem groupValues_eq_nil_iff {gs : List Group} :
    groupValues v start gs = [] ↔ Group.allEmpty gs = true := by
  induction gs generalizing start with
  | nil => exact ⟨fun _ => rfl, fun _ => rfl⟩
  | cons g gs ih =>
    rw [groupValues, List.append_eq_nil_iff, ih, Group.allEmpty, Bool.and_eq_true]
    by_cases hg : g.isEmpty = true
    · rw [if_pos hg]
      tauto
    · rw [if_neg hg]
      exact ⟨fun h => absurd h.1 (List.cons_ne_nil _ _), fun h => absurd h.1 hg⟩

theorem filterValues_eq_nil_iff {fs : List Filter} : filterValues v start fs = [] ↔ fs = [] := by
  cases fs <;> simp [filterValues]

theorem Group.valueFrom_of_isEmpty {g : Group} (h : g.isEmpty = true) :
    g.valueFrom v start = true := by
  cases g with
  | mk op fs gs =>
    simp only [Group.isEmpty, Bool.and_eq_true, List.isEmpty_iff] at h
    rw [Group.valueFrom, h.1, filterValues, (groupValues_eq_nil_iff v _).2 h.2, List.append_nil,
      LogicalOperator.combine_nil]

theorem Group.valueFrom_singleton (op : LogicalOperator) {g : Group} (h : ¬g.isEmpty = true) :
    (Group.mk op [] [g]).valueFrom v start = g.valueFrom v start := by
  rw [Group.valueFrom, filterValues, groupValues, groupValues, if_neg h, List.append_nil,
    List.nil_append, LogicalOperator.combine_singleton]
  rfl

end Values

mutual

/-- Whether a style can express a group: no exclusive or at any depth, an effect of every condition
and a condition in every compound filter. -/
def Group.Expressible (t : FilterStyle) : Group → Prop
  | .mk op fs gs => op ≠ .xor ∧ FiltersExpressible t fs ∧ GroupsExpressible t gs

/-- Whether a style can express a filter. -/
def Filter.Expressible (t : FilterStyle) : Filter → Prop
  | .condition c => ∃ s, c.predicate? t = .ok (some s)
  | .compound g _ => g.leaves ≠ [] ∧ g.Expressible t

/-- Whether a style can express all filters. -/
def FiltersExpressible (t : FilterStyle) : List Filter → Prop
  | [] => True
  | f :: fs => f.Expressible t ∧ FiltersExpressible t fs

/-- Whether a style can express all groups. -/
def GroupsExpressible (t : FilterStyle) : List Group → Prop
  | [] => True
  | g :: gs => g.Expressible t ∧ GroupsExpressible t gs

end

namespace Chain

theorem memberLeaves_append (ms ns : List Chain) :
    memberLeaves (ms ++ ns) = memberLeaves ms ++ memberLeaves ns := by
  induction ms with
  | nil => rfl
  | cons m ms ih => rw [List.cons_append, memberLeaves, memberLeaves, ih, List.append_assoc]

theorem valuesFrom_append (v : Nat → Bool) (start : Nat) (ms ns : List Chain) :
    valuesFrom v start (ms ++ ns) =
      valuesFrom v start ms ++ valuesFrom v (start + (memberLeaves ms).length) ns := by
  induction ms generalizing start with
  | nil => rfl
  | cons m ms ih =>
    rw [List.cons_append, valuesFrom, valuesFrom, ih, memberLeaves, List.length_append,
      Nat.add_assoc, List.cons_append]

end Chain

/-- Chains that hold the predicates of conditions and have the values of members. -/
structure Expresses (t : FilterStyle) (cs : List Condition)
    (values : (Nat → Bool) → Nat → List Bool) (ms : List Chain) : Prop where
  proper : ∀ m ∈ ms, m.Proper
  texts : List.Forall₂ (fun c s => c.predicate? t = .ok (some s)) cs
    ((Chain.memberLeaves ms).map Prod.snd)
  values_eq : ∀ v start, Chain.valuesFrom v start ms = values v start

section Expression

variable {t : FilterStyle} {cs ds : List Condition} {ms ns : List Chain}
  {values values' : (Nat → Bool) → Nat → List Bool}

theorem Expresses.nil : Expresses t [] (fun _ _ => []) [] :=
  ⟨List.forall_mem_nil _, .nil, fun _ _ => rfl⟩

theorem Expresses.append (h : Expresses t cs values ms) (h' : Expresses t ds values' ns) :
    Expresses t (cs ++ ds) (fun v start => values v start ++ values' v (start + cs.length))
      (ms ++ ns) := by
  refine ⟨List.forall_mem_append.2 ⟨h.proper, h'.proper⟩, ?_, fun v start => ?_⟩
  · rw [Chain.memberLeaves_append, List.map_append]
    exact List.rel_append h.texts h'.texts
  · rw [Chain.valuesFrom_append, h.values_eq, h'.values_eq, h.texts.length_eq, List.length_map]

/-- Chains joined to one chain. -/
theorem Expresses.joined {op : LogicalOperator} (hop : op ≠ .xor) (hne : ms ≠ [])
    (h : Expresses t cs values ms) :
    Expresses t cs (fun v start => [op.combine (values v start)]) [.joined op ms] := by
  refine ⟨List.forall_mem_singleton.2 (.joined hop hne h.proper), ?_, fun v start => ?_⟩
  · rw [Chain.memberLeaves, Chain.leaves, Chain.memberLeaves, List.append_nil]
    exact h.texts
  · rw [Chain.valuesFrom, Chain.valueFrom, h.values_eq]
    rfl

theorem FilterStyle.checkOperator_of_ne {op : LogicalOperator} (h : op ≠ .xor) :
    t.checkOperator op = .ok () := by
  rw [FilterStyle.checkOperator, if_neg fun hs => h hs.2]

/-- The members of a group that is more than redundant nesting are joined. -/
theorem Group.exists_of_members {op : LogicalOperator} {fs : List Filter} {gs : List Group}
    (hop : op ≠ .xor) (hmany : ∀ g, fs = [] → gs = [g] → False)
    (hfs : filterExpressions t fs = .ok ms)
    (hms : Expresses t (leavesOfFilters fs) (fun v start => filterValues v start fs) ms)
    (hgs : groupExpressions t gs = .ok ns)
    (hns : Expresses t (leavesOfGroups gs) (fun v start => groupValues v start gs) ns) :
    ∃ x, (Group.mk op fs gs).expression? t = .ok x ∧
      Expresses t (Group.mk op fs gs).leaves (fun v start =>
        if (Group.mk op fs gs).isEmpty then [] else [(Group.mk op fs gs).valueFrom v start])
        x.toList := by
  by_cases he : (Group.mk op fs gs).isEmpty = true
  · refine ⟨none, ?_, ?_⟩
    · rw [Group.expression?.eq_2 t op fs gs hmany]
      exact if_pos he
    · simp only [if_pos he, Group.leaves_of_isEmpty _ he]
      exact .nil
  have hjoined := hms.append hns
  have hne : ms ++ ns ≠ [] := by
    intro hnil
    have hvalues := hjoined.values_eq (fun _ => true) 0
    rw [hnil, Chain.valuesFrom, eq_comm, List.append_eq_nil_iff, filterValues_eq_nil_iff,
      groupValues_eq_nil_iff] at hvalues
    rw [Group.isEmpty, hvalues.1, hvalues.2] at he
    exact he rfl
  refine ⟨some (.joined op (ms ++ ns)), ?_, ?_⟩
  · obtain ⟨m, members, hm⟩ := List.exists_cons_of_ne_nil hne
    have hexpr := (Group.expression?.eq_2 t op fs gs hmany).trans (if_neg he)
    rw [hexpr, FilterStyle.checkOperator_of_ne hop, hfs, hgs]
    simp only [bind, Except.bind, hm]
    rfl
  · simp only [if_neg he]
    exact hjoined.joined hop hne

mutual

theorem Group.exists_expression? : ∀ g : Group,
    g.Expressible t → ∃ x, g.expression? t = .ok x ∧
      Expresses t g.leaves (fun v start => if g.isEmpty then [] else [g.valueFrom v start])
        x.toList
  | .mk op [] [g], h => by
    obtain ⟨x, hx, hexp⟩ := g.exists_expression? h.2.2.1
    have hleaves : (Group.mk op [] [g]).leaves = g.leaves := by
      rw [Group.leaves, leavesOfFilters, leavesOfGroups, leavesOfGroups, List.nil_append,
        List.append_nil]
    have hempty : (Group.mk op [] [g]).isEmpty = g.isEmpty := by
      rw [Group.isEmpty, Group.allEmpty, Group.allEmpty, List.isEmpty_nil, Bool.true_and,
        Bool.and_true]
    refine ⟨x, by rw [Group.expression?, hx], ?_⟩
    rw [hleaves, hempty]
    by_cases hg : g.isEmpty = true
    · simpa only [if_pos hg] using hexp
    · simpa only [if_neg hg, Group.valueFrom_singleton _ _ op hg] using hexp
  | .mk op [] [], h => Group.exists_of_members h.1 (by simp) rfl .nil rfl .nil
  | .mk op [] (g :: g' :: gs), h => by
    obtain ⟨ns, hgs, hns⟩ := exists_groupExpressions (g :: g' :: gs) h.2.2
    exact Group.exists_of_members h.1 (by simp) rfl .nil hgs hns
  | .mk op (f :: fs) gs, h => by
    obtain ⟨ms, hfs, hms⟩ := exists_filterExpressions (f :: fs) h.2.1
    obtain ⟨ns, hgs, hns⟩ := exists_groupExpressions gs h.2.2
    exact Group.exists_of_members h.1 (by simp) hfs hms hgs hns

theorem Filter.exists_expression? : ∀ f : Filter,
    f.Expressible t → ∃ x, f.expression? t = .ok x ∧
      Expresses t f.leaves (fun v start => [f.valueFrom v start]) x.toList
  | .condition c, ⟨s, hs⟩ => by
    refine ⟨some (.predicate c s), ?_, ⟨?_, ?_, ?_⟩⟩
    · rw [Filter.expression?, hs]
      rfl
    · exact List.forall_mem_singleton.2 (.predicate c s)
    · exact .cons hs .nil
    · exact fun v start => rfl
  | .compound g _, h => by
    obtain ⟨x, hx, hexp⟩ := g.exists_expression? h.2
    have hg : ¬g.isEmpty = true := fun he => h.1 (g.leaves_of_isEmpty he)
    simp only [if_neg hg] at hexp
    exact ⟨x, hx, hexp⟩

theorem exists_filterExpressions : ∀ fs : List Filter,
    FiltersExpressible t fs → ∃ ms, filterExpressions t fs = .ok ms ∧
      Expresses t (leavesOfFilters fs) (fun v start => filterValues v start fs) ms
  | [], _ => ⟨[], rfl, .nil⟩
  | f :: fs, h => by
    obtain ⟨x, hx, hf⟩ := f.exists_expression? h.1
    obtain ⟨ms, hms, hfs⟩ := exists_filterExpressions fs h.2
    refine ⟨x.toList ++ ms, ?_, hf.append hfs⟩
    rw [filterExpressions, hx, hms]
    rfl

theorem exists_groupExpressions : ∀ gs : List Group,
    GroupsExpressible t gs → ∃ ms, groupExpressions t gs = .ok ms ∧
      Expresses t (leavesOfGroups gs) (fun v start => groupValues v start gs) ms
  | [], _ => ⟨[], rfl, .nil⟩
  | g :: gs, h => by
    obtain ⟨x, hx, hg⟩ := g.exists_expression? h.1
    obtain ⟨ms, hms, hgs⟩ := exists_groupExpressions gs h.2
    refine ⟨x.toList ++ ms, ?_, hg.append hgs⟩
    rw [groupExpressions, hx, hms]
    rfl

end

end Expression

/-- Tokens that mean a group: they hold the predicates of its conditions in order, need no rule for
which operator goes first, and have the value of the group however they are read. -/
structure Means (t : FilterStyle) (ts : List Token) (g : Group) : Prop where
  predicates_eq : ∃ texts, Token.predicates ts = texts.zipIdx ∧
    List.Forall₂ (fun c s => c.predicate? t = .ok (some s)) g.leaves texts
  single : Token.SingleOperator ts
  readable : ∃ e, Reads ts e
  value_eq : ∀ e, Reads ts e → ∀ v, e.value v = g.valueFrom v 0
  holds_eq : ∀ e, Reads ts e → ∀ row v, (∀ p ∈ g.leaves.zipIdx, v p.2 = p.1.holds row) →
    e.value v = g.holds row

/-- The expression of a group means the group. One without conditions, which accepts every row, has
no expression. -/
theorem expression?_means {t : FilterStyle} {g : Group} (h : g.Expressible t) :
    (g.leaves = [] ∧ g.expression? t = .ok none ∧ (∀ v, g.valueFrom v 0 = true) ∧
        ∀ row, g.holds row = true) ∨
      ∃ chain ts, g.expression? t = .ok (some chain) ∧ chain.text = Token.print ts ∧
        Means t ts g := by
  obtain ⟨x, hx, hexp⟩ := g.exists_expression? h
  by_cases he : g.isEmpty = true
  · simp only [if_pos he, g.leaves_of_isEmpty he] at hexp
    have hnone : x = none := by
      cases x with
      | none => rfl
      | some chain => cases hexp.values_eq (fun _ => true) 0
    exact .inl ⟨g.leaves_of_isEmpty he, hnone ▸ hx, fun v => Group.valueFrom_of_isEmpty v 0 he,
      fun row => Group.holds_of_isEmpty row he⟩
  · simp only [if_neg he] at hexp
    cases x with
    | none => cases hexp.values_eq (fun _ => true) 0
    | some chain =>
      have hproper : chain.Proper := hexp.proper chain (List.mem_singleton_self _)
      have htexts := hexp.texts
      rw [Option.toList_some, Chain.memberLeaves, Chain.memberLeaves, List.append_nil] at htexts
      have hvalue (e : Formula) (hr : Reads (chain.tokensFrom 0) e) (v : Nat → Bool) :
          e.value v = g.valueFrom v 0 :=
        (hproper.value_tokensFrom hr v).trans (List.cons.inj (hexp.values_eq v 0)).1
      exact .inr ⟨chain, chain.tokensFrom 0, hx, (chain.print_tokensFrom 0).symm,
        ⟨_, chain.predicates_tokensFrom 0, htexts⟩, hproper.singleOperator_tokensFrom 0,
        hproper.exists_reads_tokensFrom 0, hvalue, fun e hr row v hrow =>
          (hvalue e hr v).trans (g.valueFrom_eq_holds 0 hrow)⟩

/-- A conjunction among alternatives with alternatives among its own members, a compound filter of
one member, redundant nesting and nested groups without conditions. -/
def tangledGroup : Group :=
  let test (field : String) (op : Comparator) (v : Value) : Filter :=
    .condition { target := .address field, comparator := op, value := v }
  .mk .or
    [test "status" .is (.str "open"), .compound (.mk .and [test "a" .equals (.str "x")] []) false]
    [.mk .and [test "b" .isIn (.list [.str "1", .str "2"])]
        [.mk .and [] [.mk .or [test "c" .notIn (.list [.str "3"]), test "d" .lessThan (.int 4)] []],
          .mk .or [] []],
      .mk .and [] [.mk .and [] []]]

theorem expression?_means_tangledGroup :
    ∃ chain ts, tangledGroup.expression? .odata2 = .ok (some chain) ∧
      chain.text = Token.print ts ∧ Means .odata2 ts tangledGroup := by
  have h : tangledGroup.Expressible .odata2 := by
    refine ⟨by decide, ⟨⟨_, rfl⟩, ?compound, trivial⟩, ?conjunction, ?empty, trivial⟩
    case compound => exact ⟨List.cons_ne_nil _ _, by decide, ⟨⟨_, rfl⟩, trivial⟩, trivial⟩
    case conjunction =>
      refine ⟨by decide, ⟨⟨_, rfl⟩, trivial⟩, ⟨by decide, trivial, ?alternatives, trivial⟩,
        ⟨by decide, trivial, trivial⟩, trivial⟩
      exact ⟨by decide, ⟨⟨_, rfl⟩, ⟨_, rfl⟩, trivial⟩, trivial⟩
    case empty => exact ⟨by decide, trivial, ⟨by decide, trivial, trivial⟩, trivial⟩
  exact (expression?_means h).resolve_left fun hleaves => List.cons_ne_nil _ _ hleaves.1

end EntityQuery
