import EntityQuery.Proofs.RefusedOperator

/-!
# An expression means what is left of its group

The expression of a group joins the expressions of its parts (`Group.expression?_cases`). It has a
chain for each part of the group that is more than silent conditions, so it means the group without
them (`Group.exists_expression?_left`).
-/

namespace EntityQuery

variable {t : FilterStyle} {ms : List Chain}

section Parts

variable (v : Nat → Bool) (start : Nat)

theorem leavesOfFilters_append (fs fs' : List Filter) :
    leavesOfFilters (fs ++ fs') = leavesOfFilters fs ++ leavesOfFilters fs' := by
  simp [leavesOfFilters_eq_flatMap]

theorem filterValues_append (fs fs' : List Filter) :
    filterValues v start (fs ++ fs') =
      filterValues v start fs ++ filterValues v (start + (leavesOfFilters fs).length) fs' := by
  induction fs generalizing start with
  | nil => rfl
  | cons f fs ih =>
    rw [List.cons_append, filterValues, ih, filterValues, leavesOfFilters, List.length_append,
      Nat.add_assoc, List.cons_append]

theorem groupValues_eq_filterValues (gs : List Group) :
    groupValues v start gs =
      filterValues v start ((gs.filter (!·.isEmpty)).map (.compound · false)) := by
  induction gs generalizing start with
  | nil => rfl
  | cons g gs ih =>
    by_cases hg : g.isEmpty = true
    · simp [groupValues, ih, hg, Group.leaves_of_isEmpty]
    · simp [groupValues, filterValues, Filter.valueFrom, Filter.leaves, ih, hg]

theorem Group.valueFrom_eq_combine (g : Group) :
    g.valueFrom v start = g.operator.combine (filterValues v start g.parts) := by
  cases g with
  | mk op fs gs =>
    rw [Group.valueFrom, groupValues_eq_filterValues, parts, filterValues_append]
    rfl

theorem Group.leaves_eq_leavesOfFilters (g : Group) : g.leaves = leavesOfFilters g.parts := by
  rw [leaves_eq_flatMap, leavesOfFilters_eq_flatMap]

end Parts

theorem filterExpressions_append (fs fs' : List Filter) :
    filterExpressions t (fs ++ fs') =
      (do pure ((← filterExpressions t fs) ++ (← filterExpressions t fs'))) := by
  induction fs with
  | nil => cases hfs : filterExpressions t fs' <;> simp [filterExpressions, hfs] <;> rfl
  | cons f fs ih =>
    rw [List.cons_append, filterExpressions, ih, filterExpressions]
    cases f.expression? t <;> cases filterExpressions t fs <;> cases filterExpressions t fs' <;>
      simp [bind, Except.bind, pure, Except.pure]

theorem Group.expression?_of_isEmpty : ∀ {g : Group}, g.isEmpty = true →
    g.expression? t = .ok none
  | .mk op [] [g], h => by
    rw [Group.expression?]
    exact expression?_of_isEmpty (by simpa [Group.isEmpty, Group.allEmpty] using h)
  | .mk op [] [], _ => rfl
  | .mk op [] (g :: g' :: gs), h => by
    rw [Group.expression?.eq_2 t op [] (g :: g' :: gs) (by simp)]
    exact if_pos h
  | .mk op (f :: fs) gs, h => by cases h

theorem groupExpressions_eq_filterExpressions (gs : List Group) :
    groupExpressions t gs =
      filterExpressions t ((gs.filter (!·.isEmpty)).map (.compound · false)) := by
  induction gs with
  | nil => rfl
  | cons g gs ih =>
    by_cases hg : g.isEmpty = true
    · rw [groupExpressions, Group.expression?_of_isEmpty hg, ih,
        List.filter_cons_of_neg (by simp [hg])]
      cases filterExpressions t ((gs.filter (!·.isEmpty)).map (.compound · false)) <;> rfl
    · simp [groupExpressions, ih, hg, filterExpressions, Filter.expression?]

/-- An expression joins those of the parts, and fails where one of these does or at an exclusive
or. -/
theorem Group.expression?_cases (g : Group) :
    (∃ ms x, filterExpressions t g.parts = .ok ms ∧ g.expression? t = .ok x ∧
      (x.toList = ms ∨ x = some (.joined g.operator ms) ∧ ms ≠ [])) ∨
    (∃ e, filterExpressions t g.parts = .error e ∧ g.expression? t = .error e) ∨
      ∃ e, g.operator = .xor ∧ .operator .xor ∈ g.encounters ∧ g.expression? t = .error e := by
  by_cases hg : g.isEmpty = true
  · rw [isEmpty_iff_parts.1 hg]
    exact .inl ⟨[], none, rfl, expression?_of_isEmpty hg, .inl rfl⟩
  cases g with
  | mk op fs gs =>
    by_cases hmany : ∃ g, fs = [] ∧ gs = [g]
    · obtain ⟨g, rfl, rfl⟩ := hmany
      have hparts : (Group.mk op [] [g]).parts = [.compound g false] := by
        simpa [Group.isEmpty, Group.allEmpty, parts] using hg
      rw [hparts, filterExpressions, filterExpressions, Filter.expression?, Group.expression?]
      cases g.expression? t with
      | error e => exact .inr (.inl ⟨e, rfl, rfl⟩)
      | ok x => exact .inl ⟨_, x, rfl, rfl, .inl (List.append_nil _).symm⟩
    have hmany (g : Group) (hf : fs = []) (hg : gs = [g]) : False := hmany ⟨g, hf, hg⟩
    rw [(Group.expression?.eq_2 t op fs gs hmany).trans (if_neg hg), parts,
      filterExpressions_append, ← groupExpressions_eq_filterExpressions]
    cases hcheck : t.checkOperator op with
    | error e =>
      obtain rfl : op = .xor := by
        by_contra hop
        cases hcheck.symm.trans (FilterStyle.checkOperator_of_ne hop)
      refine .inr (.inr ⟨_, rfl, ?_, rfl⟩)
      rw [Group.encounters.eq_2 _ fs gs hmany]
      exact List.mem_cons_self
    | ok _ =>
      cases hfs : filterExpressions t fs with
      | error e => exact .inr (.inl ⟨e, rfl, rfl⟩)
      | ok ms =>
        cases hgs : groupExpressions t gs with
        | error e => exact .inr (.inl ⟨e, rfl, rfl⟩)
        | ok ns =>
          refine .inl ⟨ms ++ ns, ?_⟩
          simp only [bind, Except.bind, pure, Except.pure, true_and]
          cases ms ++ ns with
          | nil => exact ⟨none, rfl, .inl rfl⟩
          | cons m members => exact ⟨some _, rfl, .inr ⟨rfl, List.cons_ne_nil _ _⟩⟩

theorem Group.exists_expression?_of_parts {g : Group} (hop : g.operator ≠ .xor)
    (h : filterExpressions t g.parts = .ok ms) :
    ∃ x, g.expression? t = .ok x ∧
      (x.toList = ms ∨ x = some (.joined g.operator ms) ∧ ms ≠ []) := by
  rcases g.expression?_cases (t := t) with ⟨ms', x, hms, hx⟩ | ⟨e, he, -⟩ | ⟨-, hxor, -⟩
  · cases h.symm.trans hms
    exact ⟨x, hx⟩
  · cases h.symm.trans he
  · exact absurd hxor hop

/-- Chains for what is left of the parts of a group make a chain for what is left of the group. -/
theorem Expresses.combined {op : LogicalOperator} {cs : List Condition} {fs : List Filter}
    {x : Option Chain} (hop : op ≠ .xor)
    (h : Expresses t cs (fun v start => filterValues v start fs) ms)
    (hx : x.toList = ms ∨ x = some (.joined op ms) ∧ ms ≠ []) :
    Expresses t cs
      (fun v start => if fs = [] then [] else [op.combine (filterValues v start fs)]) x.toList := by
  rcases hx with rfl | ⟨rfl, hne⟩
  · refine ⟨h.proper, h.texts, fun v start => ?_⟩
    have hvalues := h.values_eq v start
    cases x with
    | none => rw [if_pos ((filterValues_eq_nil_iff v start).1 hvalues.symm)]; rfl
    | some chain =>
      rw [hvalues, if_neg]
      · rw [← hvalues, Option.toList_some, Chain.valuesFrom, Chain.valuesFrom,
          LogicalOperator.combine_singleton]
      · rw [← filterValues_eq_nil_iff v start, ← hvalues]
        exact List.cons_ne_nil _ _
  · obtain ⟨m, members, rfl⟩ := List.exists_cons_of_ne_nil hne
    have hfs : fs ≠ [] := by
      rw [ne_eq, ← filterValues_eq_nil_iff (fun _ => true) 0, ← h.values_eq]
      exact List.cons_ne_nil _ _
    simp only [if_neg hfs]
    exact h.joined hop hne

section Left

variable {g : Group}

theorem exists_filterExpressions_left {fs : List Filter}
    (h : ∀ f ∈ fs, ∃ x, f.expression? t = .ok x ∧
      Expresses t (leavesOfFilters (f.withoutSilent t))
        (fun v start => filterValues v start (f.withoutSilent t)) x.toList) :
    ∃ ms, filterExpressions t fs = .ok ms ∧
      Expresses t (leavesOfFilters (fs.flatMap (·.withoutSilent t)))
        (fun v start => filterValues v start (fs.flatMap (·.withoutSilent t))) ms := by
  induction fs with
  | nil => exact ⟨[], rfl, .nil⟩
  | cons f fs ih =>
    rw [List.forall_mem_cons] at h
    obtain ⟨⟨x, hx, hf⟩, hfs⟩ := h
    obtain ⟨ms, hms, hrest⟩ := ih hfs
    refine ⟨x.toList ++ ms, ?_, ?_⟩
    · rw [filterExpressions, hx, hms]
      rfl
    · simp only [List.flatMap_cons, filterValues_append, leavesOfFilters_append]
      exact hf.append hrest

/-- The expression of a group has the values of what is left of it. -/
theorem Group.exists_expression?_left (hxor : g.hasXor = false)
    (h : ∀ c ∈ g.leaves, ∃ p, c.predicate? t = .ok p) :
    ∃ x, g.expression? t = .ok x ∧
      Expresses t (g.withoutSilent t).leaves (fun v start =>
        if (g.withoutSilent t).isEmpty then [] else [(g.withoutSilent t).valueFrom v start])
        x.toList := by
  induction g using parts_induction with
  | step g ih =>
    obtain ⟨hop, hparts⟩ := forall_parts_of_hasXor hxor
    rw [leaves_eq_flatMap, List.forall_mem_flatMap] at h
    have hpart (f : Filter) (hf : f ∈ g.parts) : ∃ x, f.expression? t = .ok x ∧
        Expresses t (leavesOfFilters (f.withoutSilent t))
          (fun v start => filterValues v start (f.withoutSilent t)) x.toList := by
      cases f with
      | condition c =>
        obtain ⟨p, hp⟩ := h _ hf c (List.mem_singleton_self _)
        rw [Filter.withoutSilent, Condition.isSilent, Filter.expression?, hp]
        cases p with
        | none => exact ⟨none, rfl, .nil⟩
        | some s =>
          exact ⟨some (.predicate c s), rfl, List.forall_mem_singleton.2 (.predicate c s),
            .cons hp .nil, fun v start => rfl⟩
      | compound g' l =>
        obtain ⟨x, hx, hexp⟩ := ih g' l hf (hparts _ hf) (h _ hf)
        refine ⟨x, hx, ?_⟩
        rw [Filter.withoutSilent]
        by_cases hg : (g'.withoutSilent t).isEmpty = true
        · simpa only [if_pos hg, Group.leaves_of_isEmpty _ hg, leavesOfFilters, filterValues]
            using hexp
        · simpa only [if_neg hg, leavesOfFilters, Filter.leaves, List.append_nil, filterValues,
            Filter.valueFrom] using hexp
    obtain ⟨ms, hms, hexp⟩ := exists_filterExpressions_left hpart
    obtain ⟨x, hx, hjoined⟩ := exists_expression?_of_parts hop hms
    refine ⟨x, hx, ?_⟩
    have hcombined := hexp.combined hop hjoined
    simpa only [← parts_withoutSilent, ← leaves_eq_leavesOfFilters, ← isEmpty_iff_parts,
      ← operator_withoutSilent t g, ← valueFrom_eq_combine] using hcombined

end Left

/-- A chain with the value of a group is a text that means the group. -/
theorem Expresses.means {g : Group} {chain : Chain}
    (h : Expresses t g.leaves (fun v start => [g.valueFrom v start]) [chain]) :
    ∃ ts, chain.text = Token.print ts ∧ Means t ts g := by
  have hproper : chain.Proper := h.proper chain (List.mem_singleton_self _)
  have htexts := h.texts
  rw [Chain.memberLeaves, Chain.memberLeaves, List.append_nil] at htexts
  have hvalue (e : Formula) (hr : Reads (chain.tokensFrom 0) e) (v : Nat → Bool) :
      e.value v = g.valueFrom v 0 :=
    (hproper.value_tokensFrom hr v).trans (List.cons.inj (h.values_eq v 0)).1
  exact ⟨_, (chain.print_tokensFrom 0).symm, ⟨_, chain.predicates_tokensFrom 0, htexts⟩,
    hproper.singleOperator_tokensFrom 0, hproper.exists_reads_tokensFrom 0, hvalue,
    fun e hr row v hrow => (hvalue e hr v).trans (g.valueFrom_eq_holds 0 hrow)⟩

/-- Every row meets a silent `notIn` or `is`, and none a silent `isIn` or `isNot`. Without its
silent conditions a group says of every row what it says with them if these are neutral where they
stand, and only then where the other conditions can be met independently of each other; its
expression means the group without them. -/
theorem withoutSilent_same_iff {g : Group} (hxor : g.hasXor = false) :
    (∀ c ∈ g.leaves, c.isSilent t = true → ∀ row, c.fault? row = none ∧
        c.holds row = (c.comparator == .notIn || c.comparator == .is)) ∧
      (g.keepsMeaning t = true → ∀ row, (g.withoutSilent t).test row = g.test row) ∧
      (Independent (g.withoutSilent t).leaves →
        (∀ row, (g.withoutSilent t).test row = g.test row) → g.keepsMeaning t = true) ∧
      ((∀ c ∈ g.leaves, ∃ p, c.predicate? t = .ok p) →
        (g.withoutSilent t).isEmpty = true ∧ g.expression? t = .ok none ∨
          ∃ chain ts, g.expression? t = .ok (some chain) ∧ chain.text = Token.print ts ∧
            Means t ts (g.withoutSilent t)) := by
  refine ⟨fun c _ hc row => ⟨c.fault?_of_isSilent hc row, c.holds_of_isSilent hc row⟩,
    g.test_withoutSilent hxor, g.keepsMeaning_of_test hxor, fun h => ?_⟩
  obtain ⟨x, hx, hexp⟩ := Group.exists_expression?_left hxor h
  by_cases hleft : (g.withoutSilent t).isEmpty = true
  · simp only [if_pos hleft] at hexp
    cases x with
    | none => exact .inl ⟨hleft, hx⟩
    | some chain => cases hexp.values_eq (fun _ => true) 0
  · simp only [if_neg hleft] at hexp
    cases x with
    | none => cases hexp.values_eq (fun _ => true) 0
    | some chain =>
      obtain ⟨ts, htext, hmeans⟩ := hexp.means
      exact .inr ⟨chain, ts, hx, htext, hmeans⟩

/-- No values, likeness to nothing and a nested group without conditions, each where it is
neutral. -/
def neutralGroup : Group :=
  let test (field : String) (op : Comparator) (v : Value) : Filter :=
    .condition { target := .address field, comparator := op, value := v }
  .mk .and
    [test "a" .notIn (.list []), test "a" .equals (.str "x"),
      .compound (.mk .or [test "b" .isIn (.list []), test "b" .equals (.str "y")] []) false]
    [.mk .and [test "b" .is (.str "")] [.mk .or [] []]]

theorem withoutSilent_same_neutralGroup :
    (∀ row, (neutralGroup.withoutSilent .odata2).test row = neutralGroup.test row) ∧
      Independent (neutralGroup.withoutSilent .odata2).leaves ∧
      ∃ chain ts, neutralGroup.expression? .odata2 = .ok (some chain) ∧
        chain.text = Token.print ts ∧ Means .odata2 ts (neutralGroup.withoutSilent .odata2) := by
  obtain ⟨-, hsame, -, hmeans⟩ :=
    withoutSilent_same_iff (t := .odata2) (g := neutralGroup) (by decide)
  have hpredicates : ∀ c ∈ neutralGroup.leaves, ∃ p, c.predicate? .odata2 = .ok p := by
    rw [show neutralGroup.leaves = [_, _, _, _, _] from rfl]
    simp only [List.forall_mem_cons]
    exact ⟨⟨_, rfl⟩, ⟨_, rfl⟩, ⟨_, rfl⟩, ⟨_, rfl⟩, ⟨_, rfl⟩, List.forall_mem_nil _⟩
  refine ⟨hsame (by decide +kernel), fun results hlength => ?_,
    (hmeans hpredicates).resolve_left fun h => absurd h.1 (by decide +kernel)⟩
  rw [show (neutralGroup.withoutSilent .odata2).leaves = [_, _] from rfl] at hlength ⊢
  obtain ⟨a, b, rfl⟩ := List.length_eq_two.1 hlength
  refine ⟨[("a", .str (if a then "x" else "z")), ("b", .str (if b then "y" else "z"))], ?_, ?_⟩
  · simp only [List.forall_mem_cons]
    cases a <;> cases b <;> exact ⟨rfl, rfl, List.forall_mem_nil _⟩
  · cases a <;> cases b <;> rfl

/-- Membership in no values, which no row meets, and its negation beside an alternative. -/
def unboundGroups : Group × Group :=
  let test (op : Comparator) (v : Value) : Filter :=
    .condition { target := .address "s", comparator := op, value := v }
  (.mk .and [test .isIn (.list [])] [],
    .mk .or [test .notIn (.list []), test .equals (.str "b")] [])

theorem withoutSilent_differs :
    unboundGroups.1.hasXor = false ∧
      (unboundGroups.1.withoutSilent .odata2).test [("s", .str "a")] = .ok true ∧
      unboundGroups.1.test [("s", .str "a")] = .ok false ∧
      unboundGroups.2.hasXor = false ∧
      (unboundGroups.2.withoutSilent .odata2).test [("s", .str "a")] = .ok false ∧
      unboundGroups.2.test [("s", .str "a")] = .ok true :=
  ⟨rfl, rfl, rfl, rfl, rfl, rfl⟩

end EntityQuery
