import EntityQuery.Proofs.ExpressionMeaning

/-!
# Conditions that leave no trace

Membership in no values and likeness to nothing leave no trace in an expression, and all rows meet
such a condition or none does (`Condition.holds_eq_of_isSilent`). Leaving it out of a group is right
where what it says is what the operator makes nothing of. So a group without its silent conditions
says of rows what the group says as long as each silent member is neutral where it stands
(`Group.holds_withoutSilent`); and where the other conditions can be met independently of each
other, only then (`Group.balanced_of_holds`).
-/

namespace EntityQuery

variable {t : FilterStyle} {row row' : Row}

/-- Whether a condition leaves no trace in an expression. -/
def Condition.isSilent (t : FilterStyle) (c : Condition) : Bool :=
  match c.predicate? t with
  | .ok none => true
  | _ => false

mutual

/-- A group without its silent conditions, and without what holds nothing then. -/
def Group.withoutSilent (t : FilterStyle) : Group → Group
  | .mk op fs gs => .mk op (filtersWithoutSilent t fs) (groupsWithoutSilent t gs)

def Filter.withoutSilent (t : FilterStyle) : Filter → List Filter
  | .condition c => if c.isSilent t then [] else [.condition c]
  | .compound g l =>
    if (g.withoutSilent t).isEmpty then [] else [.compound (g.withoutSilent t) l]

def filtersWithoutSilent (t : FilterStyle) : List Filter → List Filter
  | [] => []
  | f :: fs => f.withoutSilent t ++ filtersWithoutSilent t fs

def groupsWithoutSilent (t : FilterStyle) : List Group → List Group
  | [] => []
  | g :: gs =>
    (if (g.withoutSilent t).isEmpty then [] else [g.withoutSilent t]) ++ groupsWithoutSilent t gs

end

/-- What an operator makes nothing of among other results. -/
def LogicalOperator.neutral : LogicalOperator → Bool
  | .and => true
  | _ => false

mutual

/-- Whether each silent member of a group is neutral where it stands, at any depth. -/
def Group.balanced (t : FilterStyle) : Group → Bool
  | .mk op fs gs => filtersBalanced t op.neutral fs && groupsBalanced t op.neutral gs

def Filter.balanced (t : FilterStyle) (neutral : Bool) : Filter → Bool
  | .condition c => !c.isSilent t || c.holds [] == neutral
  | .compound g _ =>
    if (g.withoutSilent t).isEmpty then g.holds [] == neutral else g.balanced t

def filtersBalanced (t : FilterStyle) (neutral : Bool) : List Filter → Bool
  | [] => true
  | f :: fs => f.balanced t neutral && filtersBalanced t neutral fs

/-- Nested groups that are empty to begin with take no part. -/
def groupsBalanced (t : FilterStyle) (neutral : Bool) : List Group → Bool
  | [] => true
  | g :: gs =>
    (g.isEmpty ||
      if (g.withoutSilent t).isEmpty then g.holds [] == neutral else g.balanced t) &&
        groupsBalanced t neutral gs

end

/-- Whether leaving silent conditions out changes nothing: a group of which nothing is left has to
accept every row, and in any other group they have to be neutral. -/
def Group.keepsMeaning (t : FilterStyle) (g : Group) : Bool :=
  if (g.withoutSilent t).isEmpty then g.holds [] else g.balanced t

mutual

/-- Whether a group asks for an exclusive or, at any depth. -/
def Group.hasXor : Group → Bool
  | .mk op fs gs => op == .xor || filtersHaveXor fs || groupsHaveXor gs

def Filter.hasXor : Filter → Bool
  | .condition _ => false
  | .compound g _ => g.hasXor

def filtersHaveXor : List Filter → Bool
  | [] => false
  | f :: fs => f.hasXor || filtersHaveXor fs

def groupsHaveXor : List Group → Bool
  | [] => false
  | g :: gs => g.hasXor || groupsHaveXor gs

end

/-- Conditions that can be met independently of each other: some row that they can be evaluated on
gives them whatever results are asked for. -/
def Independent (cs : List Condition) : Prop :=
  ∀ results : List Bool, results.length = cs.length →
    ∃ row, (∀ c ∈ cs, c.fault? row = none) ∧ cs.map (·.holds row) = results

namespace Condition

variable {c : Condition}

theorem isMissing_of_comparison?_none (h : c.comparison? t = .ok none) :
    operatorWord? c.comparator = none ∧ c.value.isMissing = true := by
  obtain ⟨field, -, h⟩ := Except.bind_eq_ok_iff.1 h
  cases hw : operatorWord? c.comparator with
  | some word =>
    rw [hw] at h
    obtain ⟨operand, -, h⟩ := Except.bind_eq_ok_iff.1 h
    cases h
  | none =>
    refine ⟨rfl, by_contra fun hv => ?_⟩
    simp only [hw, if_neg hv] at h
    split at h <;> obtain ⟨operand, -, h⟩ := Except.bind_eq_ok_iff.1 h <;> cases h

/-- A silent condition asks for membership in no values or for likeness to nothing. -/
theorem isSilent_cases (h : c.isSilent t = true) :
    c.comparator.isMembership = true ∧ c.lacksDelimiter = false ∧ c.members = [] ∨
      (c.comparator = .is ∨ c.comparator = .isNot) ∧ c.value.isMissing = true := by
  have hp : c.predicate? t = .ok none := by
    rw [isSilent] at h
    split at h
    · assumption
    · cases h
  rw [predicate?] at hp
  by_cases hc : c.comparator.isMembership = true
  · rw [if_pos hc] at hp
    obtain ⟨values, hvalues, hp⟩ := Except.bind_eq_ok_iff.1 hp
    by_cases hd : c.lacksDelimiter = true
    · rw [Condition.values, if_pos hd] at hvalues
      cases hvalues
    rw [Condition.values, if_neg hd] at hvalues
    cases hvalues
    split at hp
    · exact .inl ⟨hc, Bool.eq_false_iff.2 hd, ‹_›⟩
    · next v hm =>
      have hword := (isMissing_of_comparison?_none hp).1
      cases hcomp : c.comparator <;>
        simp [simplify, hcomp, hm, operatorWord?, Comparator.isMembership] at hword hc
    · obtain ⟨field, -, hp⟩ := Except.bind_eq_ok_iff.1 hp
      obtain ⟨literals, -, hp⟩ := Except.bind_eq_ok_iff.1 hp
      cases hp
  · rw [if_neg hc] at hp
    obtain ⟨hword, hv⟩ := isMissing_of_comparison?_none hp
    refine .inr ⟨?_, hv⟩
    cases hcomp : c.comparator <;>
      simp [hcomp, operatorWord?, Comparator.isMembership] at hword hc ⊢

theorem fault?_of_isSilent (h : c.isSilent t = true) (row : Row) : c.fault? row = none := by
  rcases isSilent_cases h with ⟨hc, hd, hm⟩ | ⟨hc, hv⟩
  · cases hcomp : c.comparator <;> simp_all [fault?, Comparator.isMembership, Value.searchFails]
  · have hd : c.lacksDelimiter = false := by
      rcases hc with hc | hc <;> unfold lacksDelimiter <;> split <;>
        simp [hc, Comparator.isMembership]
    rcases hc with hc | hc <;> simp [fault?, hc, hd, Value.isLikeFails, hv]

/-- No value is one of none, and every value is like nothing. -/
theorem holds_of_isSilent (h : c.isSilent t = true) (row : Row) :
    c.holds row = (c.comparator == .notIn || c.comparator == .is) := by
  rcases isSilent_cases h with ⟨hc, -, hm⟩ | ⟨hc | hc, hv⟩
  · cases hcomp : c.comparator <;> simp_all [holds, Comparator.isMembership]
  · simp [holds, hc, Value.isLike, hv]
  · simp [holds, hc, Value.isLike, hv]

/-- All rows meet a silent condition or none does. -/
theorem holds_eq_of_isSilent (h : c.isSilent t = true) (row row' : Row) :
    c.holds row = c.holds row' :=
  (holds_of_isSilent h row).trans (holds_of_isSilent h row').symm

end Condition

/-- What takes part in a group: its filters, and as filters the nested groups that are not empty. -/
def Group.parts : Group → List Filter
  | .mk _ fs gs => fs ++ (gs.filter (!·.isEmpty)).map (.compound · false)

theorem filterResults_eq_map (row : Row) (fs : List Filter) :
    filterResults row fs = fs.map (·.holds row) := by
  induction fs with
  | nil => rfl
  | cons f fs ih => rw [filterResults, ih, List.map_cons]

theorem groupResults_eq_map (row : Row) (gs : List Group) :
    groupResults row gs = (gs.filter (!·.isEmpty)).map (·.holds row) := by
  induction gs with
  | nil => rfl
  | cons g gs ih => by_cases hg : g.isEmpty <;> simp [groupResults, hg, ih]

theorem leavesOfFilters_eq_flatMap (fs : List Filter) :
    leavesOfFilters fs = fs.flatMap Filter.leaves := by
  induction fs with
  | nil => rfl
  | cons f fs ih => rw [leavesOfFilters, ih, List.flatMap_cons]

theorem leavesOfGroups_eq_flatMap (gs : List Group) :
    leavesOfGroups gs = (gs.filter (!·.isEmpty)).flatMap Group.leaves := by
  induction gs with
  | nil => rfl
  | cons g gs ih =>
    by_cases hg : g.isEmpty <;> simp [leavesOfGroups, hg, ih, Group.leaves_of_isEmpty g]

theorem filtersWithoutSilent_eq_flatMap (fs : List Filter) :
    filtersWithoutSilent t fs = fs.flatMap (·.withoutSilent t) := by
  induction fs with
  | nil => rfl
  | cons f fs ih => rw [filtersWithoutSilent, ih, List.flatMap_cons]

mutual

theorem Group.isEmpty_withoutSilent : ∀ {g : Group}, g.isEmpty = true →
    (g.withoutSilent t).isEmpty = true
  | .mk op fs gs, h => by
    simp only [Group.isEmpty, Bool.and_eq_true, List.isEmpty_iff] at h
    rw [Group.withoutSilent, h.1, filtersWithoutSilent, groupsWithoutSilent_of_allEmpty h.2]
    rfl

theorem groupsWithoutSilent_of_allEmpty : ∀ {gs : List Group}, Group.allEmpty gs = true →
    groupsWithoutSilent t gs = []
  | [], _ => rfl
  | g :: gs, h => by
    simp only [Group.allEmpty, Bool.and_eq_true] at h
    rw [groupsWithoutSilent, if_pos (Group.isEmpty_withoutSilent h.1),
      groupsWithoutSilent_of_allEmpty h.2, List.append_nil]

end

namespace Group

variable {g : Group}

theorem holds_eq_combine (row : Row) (g : Group) :
    g.holds row = g.operator.combine (g.parts.map (·.holds row)) := by
  cases g with
  | mk op fs gs =>
    rw [Group.holds, filterResults_eq_map, groupResults_eq_map, parts, List.map_append,
      List.map_map]
    rfl

theorem leaves_eq_flatMap (g : Group) : g.leaves = g.parts.flatMap Filter.leaves := by
  cases g with
  | mk op fs gs =>
    rw [Group.leaves, leavesOfFilters_eq_flatMap, leavesOfGroups_eq_flatMap, parts,
      List.flatMap_append, List.flatMap_map]
    rfl

theorem isEmpty_iff_parts : g.isEmpty = true ↔ g.parts = [] := by
  cases g with
  | mk op fs gs =>
    have hgs : Group.allEmpty gs = true ↔ ∀ g ∈ gs, g.isEmpty = true := by
      induction gs with
      | nil => simp [allEmpty]
      | cons g gs ih => simp [allEmpty, ih]
    simp [Group.isEmpty, parts, hgs]

theorem parts_withoutSilent (t : FilterStyle) (g : Group) :
    (g.withoutSilent t).parts = g.parts.flatMap (·.withoutSilent t) := by
  cases g with
  | mk op fs gs =>
    rw [Group.withoutSilent, parts, parts, filtersWithoutSilent_eq_flatMap, List.flatMap_append]
    congr 1
    induction gs with
    | nil => rfl
    | cons g gs ih =>
      by_cases hg : g.isEmpty = true
      · simp [groupsWithoutSilent, ih, hg, isEmpty_withoutSilent hg]
      · by_cases hg' : (g.withoutSilent t).isEmpty = true <;>
          simp [groupsWithoutSilent, ih, hg, hg', Filter.withoutSilent]

theorem isEmpty_of_withoutSilent (h : (g.withoutSilent t).isEmpty = false) :
    g.isEmpty = false := by
  rw [Bool.eq_false_iff] at h ⊢
  exact fun hg => h (isEmpty_withoutSilent hg)

theorem operator_withoutSilent (t : FilterStyle) (g : Group) :
    (g.withoutSilent t).operator = g.operator := by
  cases g
  rfl

theorem balanced_iff : g.balanced t = true ↔
    ∀ f ∈ g.parts, f.balanced t g.operator.neutral = true := by
  cases g with
  | mk op fs gs =>
    have hfs (b : Bool) : filtersBalanced t b fs = true ↔ ∀ f ∈ fs, f.balanced t b = true := by
      induction fs with
      | nil => simp [filtersBalanced]
      | cons f fs ih => simp [filtersBalanced, ih]
    have hgs (b : Bool) : groupsBalanced t b gs = true ↔
        ∀ g ∈ gs, g.isEmpty = false → (Filter.compound g false).balanced t b = true := by
      induction gs with
      | nil => simp [groupsBalanced]
      | cons g gs ih =>
        cases hg : g.isEmpty <;> simp [groupsBalanced, ih, hg, Filter.balanced]
    simp only [Group.balanced, parts, operator, Bool.and_eq_true, hfs, hgs, List.mem_append,
      List.mem_map, List.mem_filter, Bool.not_eq_true']
    aesop

theorem forall_parts_of_hasXor (h : g.hasXor = false) :
    g.operator ≠ .xor ∧ ∀ f ∈ g.parts, f.hasXor = false := by
  have hfs (fs : List Filter) : filtersHaveXor fs = false ↔ ∀ f ∈ fs, f.hasXor = false := by
    induction fs with
    | nil => simp [filtersHaveXor]
    | cons f fs ih => simp [filtersHaveXor, ih]
  have hgs (gs : List Group) : groupsHaveXor gs = false ↔ ∀ g ∈ gs, g.hasXor = false := by
    induction gs with
    | nil => simp [groupsHaveXor]
    | cons g gs ih => simp [groupsHaveXor, ih]
  cases g with
  | mk op fs gs =>
    simp only [Group.hasXor, Bool.or_eq_false_iff, hfs, hgs, beq_eq_false_iff_ne] at h
    refine ⟨h.1.1, fun f hf => ?_⟩
    rcases List.mem_append.1 hf with hf | hf
    · exact h.1.2 f hf
    · obtain ⟨g, hg, rfl⟩ := List.mem_map.1 hf
      exact h.2 g (List.mem_of_mem_filter hg)

theorem sizeOf_lt_of_mem_parts {l : Bool} {g' : Group} (h : .compound g' l ∈ g.parts) :
    sizeOf g' < sizeOf g := by
  cases g with
  | mk op fs gs =>
    rw [Group.mk.sizeOf_spec]
    rcases List.mem_append.1 h with hf | hf
    · have hlt := List.sizeOf_lt_of_mem hf
      rw [Filter.compound.sizeOf_spec] at hlt
      omega
    · obtain ⟨g, hg, heq⟩ := List.mem_map.1 hf
      cases heq
      have hlt := List.sizeOf_lt_of_mem (List.mem_of_mem_filter hg)
      omega

/-- What a group has as soon as the groups among its parts have it, every group has. -/
theorem parts_induction {P : Group → Prop}
    (step : ∀ g, (∀ g' l, Filter.compound g' l ∈ g.parts → P g') → P g) (g : Group) : P g :=
  step g fun g' _ _ => parts_induction step g'
termination_by sizeOf g
decreasing_by exact sizeOf_lt_of_mem_parts ‹_›

end Group

namespace LogicalOperator

variable {op : LogicalOperator} {results : List Bool} {b : Bool}

theorem eq_of_eq_neutral_iff {a b : Bool} (h : a = op.neutral ↔ b = op.neutral) : a = b := by
  cases a <;> cases b <;> cases hop : op.neutral <;> simp_all

theorem combine_eq_neutral_iff (hop : op ≠ .xor) (hne : results ≠ []) :
    op.combine results = op.neutral ↔ ∀ r ∈ results, r = op.neutral := by
  cases op with
  | and => simp [combine_and, neutral]
  | or => simp [combine, hne, neutral]
  | xor => exact absurd rfl hop

theorem combine_of_forall_eq (hop : op ≠ .xor) (hne : results ≠ []) (h : ∀ r ∈ results, r = b) :
    op.combine results = b := by
  by_cases hb : b = op.neutral
  · rw [hb, combine_eq_neutral_iff hop hne]
    exact fun r hr => (h r hr).trans hb
  · obtain ⟨r, hr⟩ := List.exists_mem_of_ne_nil _ hne
    have hcombine : op.combine results ≠ op.neutral := fun hn =>
      hb ((h r hr).symm.trans ((combine_eq_neutral_iff hop hne).1 hn r hr))
    rw [Bool.eq_not_of_ne hcombine, Bool.eq_not_of_ne hb]

end LogicalOperator

namespace Group

variable {g : Group} {b : Bool}

theorem map_parts_ne_nil {α : Type} (f : Filter → α) (hne : g.isEmpty = false) :
    g.parts.map f ≠ [] := by
  rw [ne_eq, List.map_eq_nil_iff, ← isEmpty_iff_parts, hne]
  exact Bool.false_ne_true

theorem holds_of_forall_parts (hop : g.operator ≠ .xor) (hne : g.isEmpty = false)
    (h : ∀ f ∈ g.parts, f.holds row = b) : g.holds row = b := by
  rw [holds_eq_combine]
  exact LogicalOperator.combine_of_forall_eq hop (map_parts_ne_nil _ hne)
    (List.forall_mem_map.2 h)

theorem holds_eq_neutral_iff (hop : g.operator ≠ .xor) (hne : g.isEmpty = false) :
    g.holds row = g.operator.neutral ↔ ∀ f ∈ g.parts, f.holds row = g.operator.neutral := by
  rw [holds_eq_combine,
    LogicalOperator.combine_eq_neutral_iff hop (map_parts_ne_nil _ hne), List.forall_mem_map]

/-- Among parts that are neutral one decides for the group. -/
theorem holds_eq_neutral_iff_part {before after : List Filter} {f : Filter}
    (hop : g.operator ≠ .xor) (hparts : g.parts = before ++ f :: after)
    (h : ∀ f ∈ before ++ after, f.holds row = g.operator.neutral) :
    g.holds row = g.operator.neutral ↔ f.holds row = g.operator.neutral := by
  have hne : g.isEmpty = false := by
    rw [Bool.eq_false_iff, ne_eq, isEmpty_iff_parts, hparts]
    simp
  rw [List.forall_mem_append] at h
  rw [holds_eq_neutral_iff hop hne, hparts, List.forall_mem_append, List.forall_mem_cons]
  exact ⟨fun hall => hall.2.1, fun hf => ⟨h.1, hf, h.2⟩⟩

/-- Rows that its conditions do not tell apart a group does not tell apart. -/
theorem holds_congr (h : ∀ c ∈ g.leaves, c.holds row = c.holds row') :
    g.holds row = g.holds row' := by
  induction g using parts_induction with
  | step g ih =>
    rw [leaves_eq_flatMap, List.forall_mem_flatMap] at h
    rw [holds_eq_combine, holds_eq_combine]
    congr 1
    refine List.map_congr_left fun f hf => ?_
    cases f with
    | condition c => exact h _ hf c (List.mem_singleton_self _)
    | compound g' l => exact ih g' l hf (h _ hf)

end Group

theorem Filter.holds_congr {f : Filter} (h : ∀ c ∈ f.leaves, c.holds row = c.holds row') :
    f.holds row = f.holds row' := by
  cases f with
  | condition c => exact h c (List.mem_singleton_self _)
  | compound g l => exact Group.holds_congr h

namespace Group

variable {g : Group} {b : Bool}

theorem leaves_withoutSilent (t : FilterStyle) (g : Group) :
    (g.withoutSilent t).leaves = g.leaves.filter (!·.isSilent t) := by
  induction g using parts_induction with
  | step g ih =>
    rw [leaves_eq_flatMap, parts_withoutSilent, leaves_eq_flatMap g, List.flatMap_assoc,
      List.filter_flatMap]
    refine List.flatMap_congr fun f hf => ?_
    cases f with
    | condition c => cases hc : c.isSilent t <;> simp [Filter.withoutSilent, Filter.leaves, hc]
    | compound g' l =>
      rw [Filter.withoutSilent, Filter.leaves, ← ih g' l hf]
      split
      · rw [Group.leaves_of_isEmpty _ ‹_›, List.flatMap_nil]
      · rw [List.flatMap_singleton, Filter.leaves]

theorem fault?_withoutSilent (t : FilterStyle) (g : Group) (row : Row) :
    (g.withoutSilent t).fault? row = g.fault? row := by
  rw [fault?, fault?, leaves_withoutSilent]
  induction g.leaves with
  | nil => rfl
  | cons c cs ih =>
    by_cases hc : c.isSilent t = true
    · simp [hc, ih, Condition.fault?_of_isSilent hc]
    · simp [List.findSome?_cons, hc, ih]

/-- Rows that the conditions left of a group do not tell apart the group does not tell apart. -/
theorem holds_eq_of_withoutSilent
    (h : ∀ c ∈ (g.withoutSilent t).leaves, c.holds row = c.holds row') :
    g.holds row = g.holds row' := by
  refine holds_congr fun c hc => ?_
  by_cases hs : c.isSilent t = true
  · exact Condition.holds_eq_of_isSilent hs row row'
  · exact h c (by simpa [leaves_withoutSilent, hc] using hs)

end Group

namespace Filter

/-- What is left of a part: nothing, a condition, or what is left of a group. -/
theorem withoutSilent_cases (t : FilterStyle) (f : Filter) (neutral : Bool) :
    f.withoutSilent t = [] ∧ f.balanced t neutral = (f.holds [] == neutral) ∨
      (∃ c, f = .condition c) ∧ f.withoutSilent t = [f] ∧ f.balanced t neutral = true ∨
      ∃ g l, f = .compound g l ∧ (g.withoutSilent t).isEmpty = false ∧
        f.withoutSilent t = [.compound (g.withoutSilent t) l] ∧
          f.balanced t neutral = g.balanced t := by
  cases f with
  | condition c =>
    rw [withoutSilent, balanced]
    by_cases hc : c.isSilent t = true
    · exact .inl ⟨if_pos hc, by rw [hc]; rfl⟩
    · exact .inr (.inl ⟨⟨c, rfl⟩, if_neg hc, by rw [Bool.not_eq_true] at hc; rw [hc]; rfl⟩)
  | compound g l =>
    rw [withoutSilent, balanced]
    by_cases hg : (g.withoutSilent t).isEmpty = true
    · exact .inl ⟨if_pos hg, if_pos hg⟩
    · exact .inr (.inr ⟨g, l, rfl, Bool.eq_false_iff.2 hg, if_neg hg, if_neg hg⟩)

/-- Rows that the conditions left of a part do not tell apart the part does not tell apart. -/
theorem holds_eq_of_withoutSilent {f : Filter}
    (h : ∀ f' ∈ f.withoutSilent t, ∀ c ∈ f'.leaves, c.holds row = c.holds row') :
    f.holds row = f.holds row' := by
  cases f with
  | condition c =>
    by_cases hc : c.isSilent t = true
    · exact Condition.holds_eq_of_isSilent hc row row'
    · rw [withoutSilent, if_neg hc] at h
      exact h _ (List.mem_singleton_self _) c (List.mem_singleton_self _)
  | compound g l =>
    refine Group.holds_eq_of_withoutSilent (t := t) ?_
    by_cases hg : (g.withoutSilent t).isEmpty = true
    · rw [Group.leaves_of_isEmpty _ hg]
      exact List.forall_mem_nil _
    · rw [withoutSilent, if_neg hg] at h
      exact h _ (List.mem_singleton_self _)

/-- All rows meet a part of which nothing is left, or none does. -/
theorem holds_eq_of_nil {f : Filter} (h : f.withoutSilent t = []) (row row' : Row) :
    f.holds row = f.holds row' :=
  holds_eq_of_withoutSilent (t := t) (h ▸ List.forall_mem_nil _)

end Filter

namespace Group

variable {g : Group} {b : Bool}

/-- Where all conditions left of a group agree, what is left of the group agrees with them. -/
theorem holds_withoutSilent_of_leaves (hxor : g.hasXor = false)
    (hne : (g.withoutSilent t).isEmpty = false)
    (h : ∀ c ∈ (g.withoutSilent t).leaves, c.holds row = b) :
    (g.withoutSilent t).holds row = b := by
  induction g using parts_induction with
  | step g ih =>
    obtain ⟨hop, hparts⟩ := forall_parts_of_hasXor hxor
    refine holds_of_forall_parts (by rwa [operator_withoutSilent]) hne ?_
    rw [leaves_eq_flatMap, List.forall_mem_flatMap] at h
    rw [parts_withoutSilent, List.forall_mem_flatMap] at h ⊢
    intro f hf
    have hleaves := h f hf
    rcases f.withoutSilent_cases t b with ⟨hleft, -⟩ | ⟨⟨c, rfl⟩, hleft, -⟩ |
      ⟨g', l, rfl, hne', hleft, -⟩
    · rw [hleft]
      exact List.forall_mem_nil _
    · rw [hleft, List.forall_mem_singleton] at hleaves ⊢
      exact hleaves c (List.mem_singleton_self _)
    · rw [hleft, List.forall_mem_singleton] at hleaves ⊢
      exact ih g' l hf (hparts _ hf) hne' hleaves

/-- Leaving out silent conditions that are neutral where they stand changes nothing. -/
theorem holds_withoutSilent (hxor : g.hasXor = false) (hne : (g.withoutSilent t).isEmpty = false)
    (h : g.balanced t = true) (row : Row) : (g.withoutSilent t).holds row = g.holds row := by
  induction g using parts_induction with
  | step g ih =>
    obtain ⟨hop, hparts⟩ := forall_parts_of_hasXor hxor
    have hop' : (g.withoutSilent t).operator ≠ .xor := by rwa [operator_withoutSilent]
    have hpart (f : Filter) (hf : f ∈ g.parts) :
        (∀ f' ∈ f.withoutSilent t, f'.holds row = g.operator.neutral) ↔
          f.holds row = g.operator.neutral := by
      have hbal := balanced_iff.1 h f hf
      rcases f.withoutSilent_cases t g.operator.neutral with ⟨hleft, hf'⟩ | ⟨-, hleft, -⟩ |
        ⟨g', l, rfl, hne', hleft, hf'⟩
      · rw [hf', beq_iff_eq] at hbal
        rw [hleft, Filter.holds_eq_of_nil hleft row [], hbal]
        exact iff_of_true (List.forall_mem_nil _) rfl
      · rw [hleft, List.forall_mem_singleton]
      · rw [hf'] at hbal
        rw [hleft, List.forall_mem_singleton, Filter.holds, Filter.holds,
          ih g' l hf (hparts _ hf) hne' hbal]
    have hiff : (g.withoutSilent t).holds row = g.operator.neutral ↔
        g.holds row = g.operator.neutral := by
      rw [holds_eq_neutral_iff hop (isEmpty_of_withoutSilent hne), ← operator_withoutSilent t g,
        holds_eq_neutral_iff hop' hne, operator_withoutSilent, parts_withoutSilent,
        List.forall_mem_flatMap]
      exact forall₂_congr hpart
    exact LogicalOperator.eq_of_eq_neutral_iff hiff

end Group

namespace Independent

variable {before cs after : List Condition}

/-- Some row meets conditions as another does, and all those around them or none. -/
theorem exists_row (h : Independent (before ++ cs ++ after)) (row : Row) (b : Bool) :
    ∃ row', (∀ c ∈ before ++ cs ++ after, c.fault? row' = none) ∧
      (∀ c ∈ before ++ after, c.holds row' = b) ∧ ∀ c ∈ cs, c.holds row' = c.holds row := by
  obtain ⟨row', hfault, hresults⟩ := h (before.map (fun _ => b) ++ cs.map (·.holds row) ++
    after.map fun _ => b) (by simp)
  simp only [List.map_append] at hresults
  obtain ⟨hresults, hafter⟩ := List.append_inj' hresults (by simp)
  obtain ⟨hbefore, hcs⟩ := List.append_inj' hresults (by simp)
  rw [List.map_inj_left] at hbefore hcs hafter
  exact ⟨row', hfault, List.forall_mem_append.2 ⟨hbefore, hafter⟩, hcs⟩

theorem middle (h : Independent (before ++ cs ++ after)) : Independent cs := by
  intro results hlength
  obtain ⟨row, hfault, hresults⟩ := h (before.map (fun _ => true) ++ results ++
    after.map fun _ => true) (by simp [hlength])
  simp only [List.map_append] at hresults
  obtain ⟨hresults, -⟩ := List.append_inj' hresults (by simp)
  have hcs := List.append_inj' hresults (by simp [hlength])
  exact ⟨row, fun c hc => hfault c (by simp [hc]), hcs.2⟩

end Independent

namespace Group

variable {g g' : Group} {before after : List Filter} {l : Bool} {row₀ : Row}

theorem parts_withoutSilent_split (hsplit : g.parts = before ++ .compound g' l :: after)
    (hne : (g'.withoutSilent t).isEmpty = false) :
    (g.withoutSilent t).parts = before.flatMap (·.withoutSilent t) ++
      .compound (g'.withoutSilent t) l :: after.flatMap (·.withoutSilent t) := by
  rw [parts_withoutSilent, hsplit, List.flatMap_append, List.flatMap_cons, Filter.withoutSilent,
    if_neg (by simp [hne]), List.singleton_append]

/-- On a row that is to those around a nested group like one where everything is neutral, the
nested group decides, with and without its silent conditions. -/
theorem holds_part_eq (hop : g.operator ≠ .xor)
    (hsplit : g.parts = before ++ .compound g' l :: after)
    (hne : (g'.withoutSilent t).isEmpty = false)
    (hparts₀ : ∀ f ∈ g.parts, f.holds row₀ = g.operator.neutral)
    (hleft₀ : ∀ f ∈ (g.withoutSilent t).parts, f.holds row₀ = g.operator.neutral)
    (haround : ∀ f ∈ (before ++ after).flatMap (·.withoutSilent t), ∀ c ∈ f.leaves,
      c.holds row = c.holds row₀)
    (h : (g.withoutSilent t).holds row = g.holds row) :
    (g'.withoutSilent t).holds row = g'.holds row := by
  have hsplit' := parts_withoutSilent_split hsplit hne
  have hothers : ∀ f ∈ before ++ after, f.holds row = g.operator.neutral := by
    intro f hf
    rw [Filter.holds_eq_of_withoutSilent fun f' hf' =>
      haround f' (List.mem_flatMap.2 ⟨f, hf, hf'⟩)]
    refine hparts₀ f ?_
    rw [hsplit]
    simp only [List.mem_append, List.mem_cons] at hf ⊢
    tauto
  have hothers' : ∀ f ∈ before.flatMap (·.withoutSilent t) ++ after.flatMap (·.withoutSilent t),
      f.holds row = (g.withoutSilent t).operator.neutral := by
    intro f hf
    rw [operator_withoutSilent, Filter.holds_congr (haround f (List.flatMap_append ▸ hf))]
    refine hleft₀ f ?_
    rw [hsplit']
    simp only [List.mem_append, List.mem_cons] at hf ⊢
    tauto
  have hpart := holds_eq_neutral_iff_part hop hsplit hothers
  have hpart' := holds_eq_neutral_iff_part (by rwa [operator_withoutSilent]) hsplit' hothers'
  rw [operator_withoutSilent, h, hpart] at hpart'
  exact LogicalOperator.eq_of_eq_neutral_iff hpart'.symm

/-- Where the conditions left can be met independently of each other, leaving out the silent ones
changes nothing only if they are neutral where they stand. -/
theorem balanced_of_holds (hxor : g.hasXor = false) (hne : (g.withoutSilent t).isEmpty = false)
    (hind : Independent (g.withoutSilent t).leaves)
    (h : ∀ row, (∀ c ∈ (g.withoutSilent t).leaves, c.fault? row = none) →
      (g.withoutSilent t).holds row = g.holds row) : g.balanced t = true := by
  induction g using parts_induction with
  | step g ih =>
    obtain ⟨hop, hparts⟩ := forall_parts_of_hasXor hxor
    obtain ⟨row₀, hfault₀, hleaves₀⟩ := hind
      ((g.withoutSilent t).leaves.map fun _ => g.operator.neutral) (List.length_map _)
    rw [List.map_inj_left] at hleaves₀
    have hleft₀ := holds_withoutSilent_of_leaves hxor hne hleaves₀
    have hparts₀ := (holds_eq_neutral_iff hop (isEmpty_of_withoutSilent hne)).1
      ((h row₀ hfault₀).symm.trans hleft₀)
    rw [← operator_withoutSilent t g, holds_eq_neutral_iff (by rwa [operator_withoutSilent]) hne,
      operator_withoutSilent] at hleft₀
    rw [balanced_iff]
    intro f hf
    rcases f.withoutSilent_cases t g.operator.neutral with ⟨hleft, hbal⟩ | ⟨-, -, hbal⟩ |
      ⟨g', l, rfl, hne', -, hbal⟩
    · rw [hbal, beq_iff_eq, ← hparts₀ f hf]
      exact Filter.holds_eq_of_nil hleft [] row₀
    · exact hbal
    rw [hbal]
    obtain ⟨before, after, hsplit⟩ := List.append_of_mem hf
    have hleaves : (g.withoutSilent t).leaves =
        (before.flatMap (·.withoutSilent t)).flatMap Filter.leaves ++
          (g'.withoutSilent t).leaves ++
            (after.flatMap (·.withoutSilent t)).flatMap Filter.leaves := by
      rw [leaves_eq_flatMap, parts_withoutSilent_split hsplit hne', List.flatMap_append,
        List.flatMap_cons, Filter.leaves, List.append_assoc]
    rw [hleaves] at hind hleaves₀ h
    refine ih g' l hf (hparts _ hf) hne' hind.middle fun row _ => ?_
    obtain ⟨row', hfault', haround, hagree⟩ := hind.exists_row row g.operator.neutral
    rw [← holds_congr hagree, ← holds_eq_of_withoutSilent hagree]
    refine holds_part_eq hop hsplit hne' hparts₀ hleft₀ (fun f hf c hc => ?_) (h row' hfault')
    have hmem : c ∈ (before.flatMap (·.withoutSilent t)).flatMap Filter.leaves ++
        (after.flatMap (·.withoutSilent t)).flatMap Filter.leaves := by
      rw [← List.flatMap_append, ← List.flatMap_append]
      exact List.mem_flatMap.2 ⟨f, hf, hc⟩
    rw [haround c hmem, hleaves₀ c]
    simp only [List.mem_append] at hmem ⊢
    tauto

theorem test_withoutSilent_eq_iff (row : Row) :
    (g.withoutSilent t).test row = g.test row ↔
      ((∀ c ∈ (g.withoutSilent t).leaves, c.fault? row = none) →
        (g.withoutSilent t).holds row = g.holds row) := by
  rw [← Group.fault?_eq_none_iff, test, test, fault?_withoutSilent]
  cases g.fault? row <;> simp

theorem test_withoutSilent (hxor : g.hasXor = false) (h : g.keepsMeaning t = true) (row : Row) :
    (g.withoutSilent t).test row = g.test row := by
  rw [test_withoutSilent_eq_iff]
  intro _
  rw [keepsMeaning] at h
  split at h
  · have hleaves := leaves_of_isEmpty (g.withoutSilent t) ‹_›
    rw [holds_of_isEmpty row ‹_›, ← h, holds_eq_of_withoutSilent (t := t)]
    simp [hleaves]
  · exact holds_withoutSilent hxor (Bool.eq_false_iff.2 ‹_›) h row

theorem keepsMeaning_of_test (hxor : g.hasXor = false)
    (hind : Independent (g.withoutSilent t).leaves)
    (h : ∀ row, (g.withoutSilent t).test row = g.test row) : g.keepsMeaning t = true := by
  simp only [test_withoutSilent_eq_iff] at h
  rw [keepsMeaning]
  split
  · have hleaves := leaves_of_isEmpty (g.withoutSilent t) ‹_›
    rw [← h [] (by simp [hleaves]), holds_of_isEmpty [] ‹_›]
  · exact balanced_of_holds hxor (Bool.eq_false_iff.2 ‹_›) hind h

end Group

end EntityQuery
