import EntityQuery.Proofs.SilentConditions

/-!
# Conditions kept for after reading

`filterLocally` asks for a condition to be met after reading also when the service has been asked
for it. A split looks at the option where it decides over a condition, and it decides over the
members of a conjunction only: what goes to the service as part of a group leaves nothing behind
(`Group.markLocal_mem_locally_iff`).
-/

namespace EntityQuery

variable {t : FilterStyle}

/-- Whether a condition is to be evaluated after reading even though it is sent. -/
def Condition.wantsLocal (c : Condition) : Bool := c.options.filterLocally.getD false

theorem Condition.wantsLocal_of_markLocal {c c' : Condition} (h : c'.markLocal = c.markLocal) :
    c'.wantsLocal = c.wantsLocal := by
  have htarget : c'.target = c.target := congrArg (·.target) h
  rw [wantsLocal, wantsLocal, options, options, htarget]

/-- What a split decides over one by one: the parts of a conjunction, or else the whole group. -/
def Group.members (g : Group) : List Filter :=
  match g.operator with
  | .and => g.parts
  | _ => [.compound g false]

/-- A split leaves a filter for later if it cannot be sent, or asks for both. -/
def Filter.StaysBehind (t : FilterStyle) (f : Filter) : Prop :=
  f.sendable t = .ok false ∨ f.wantsLocal = true

theorem mem_leavesOfFilters_locally_iff {fs : List Filter} {s : Split (List Filter)}
    {c : Condition} (h : splitFilters t fs = .ok s) :
    c ∈ leavesOfFilters s.locally ↔ ∃ f ∈ fs, f.StaysBehind t ∧ c ∈ f.markLocal.leaves := by
  induction fs generalizing s with
  | nil =>
    cases h
    simp [leavesOfFilters]
  | cons f fs ih =>
    obtain ⟨rest, hrest, ⟨hsent, rfl⟩ | ⟨hsent, rfl⟩⟩ := splitFilters_eq_ok h
    · by_cases hw : f.wantsLocal = true <;>
        simp [hw, Filter.StaysBehind, hsent, leavesOfFilters, ih hrest]
    · simp [Filter.StaysBehind, hsent, leavesOfFilters, ih hrest]

theorem mem_leavesOfGroups_locally_iff {gs : List Group} {s : Split (List Group)}
    {c : Condition} (h : splitGroups t gs = .ok s) :
    c ∈ leavesOfGroups s.locally ↔
      ∃ f ∈ (gs.filter (!·.isEmpty)).map (Filter.compound · false),
        f.StaysBehind t ∧ c ∈ f.markLocal.leaves := by
  induction gs generalizing s with
  | nil =>
    cases h
    simp [leavesOfGroups]
  | cons g gs ih =>
    obtain ⟨rest, hrest, ⟨he, rfl⟩ | ⟨he, hsent, rfl⟩ | ⟨he, hsent, rfl⟩⟩ := splitGroups_cons h
    · rw [List.filter_cons_of_neg (by simp [he]), ih hrest]
    all_goals
      rw [List.filter_cons_of_pos (by simp [he])]
      simp [leavesOfGroups, ih hrest, Filter.StaysBehind, Filter.sendable, Filter.wantsLocal,
        Filter.markLocal, Filter.leaves, hsent]

namespace Group

variable {g : Group} {s : Split Group} {c : Condition}

theorem members_of_and (h : g.operator = .and) : g.members = g.parts := by
  rw [members, h]

theorem members_of_ne_and (h : g.operator ≠ .and) : g.members = [.compound g false] := by
  rw [members]
  split
  · exact absurd ‹_› h
  · rfl

theorem mem_leaves_compound {l : Bool} :
    c ∈ (Filter.compound g l).markLocal.leaves ↔ c ∈ g.markLocal.leaves := Iff.rfl

/-- What is left for later are the conditions of the members that stay behind. -/
theorem mem_leaves_locally_iff (h : g.split t = .ok s) :
    c ∈ s.locally.leaves ↔
      ∃ f ∈ g.flatten.members, f.StaysBehind t ∧ c ∈ f.markLocal.leaves := by
  rcases split_eq_ok h with ⟨he, rfl⟩ | ⟨hop, fs, gs, hfs, hgs, rfl⟩ | ⟨hop, hwhole⟩
  · refine iff_of_false (by simp [empty, leaves, leavesOfFilters, leavesOfGroups]) ?_
    rintro ⟨f, hf, -, hc⟩
    by_cases hop : g.flatten.operator = .and
    · rw [members_of_and hop, isEmpty_iff_parts.1 he] at hf
      cases hf
    · rw [members_of_ne_and hop, List.mem_singleton] at hf
      rw [hf, mem_leaves_compound, leaves_markLocal, leaves_of_isEmpty _ he] at hc
      cases hc
  · rw [members_of_and hop]
    cases hg : g.flatten with
    | mk op filters groups =>
      rw [hg] at hfs hgs
      simp only [leaves, parts, List.mem_append, mem_leavesOfFilters_locally_iff hfs,
        mem_leavesOfGroups_locally_iff hgs, or_and_right, exists_or]
      rfl
  · rw [members_of_ne_and hop]
    rcases hwhole with ⟨hsent, rfl⟩ | ⟨hsent, rfl⟩ <;>
      simp [Filter.StaysBehind, Filter.sendable, Filter.wantsLocal, hsent, mem_leaves_compound,
        empty, leaves, leavesOfFilters, leavesOfGroups]

/-- A condition that asks for it is left for later exactly if the split decides over it alone, or
as part of something that cannot be sent. -/
theorem markLocal_mem_locally_iff (h : g.split t = .ok s) (hc : c.wantsLocal = true) :
    c.markLocal ∈ s.locally.leaves ↔
      (∃ c', .condition c' ∈ g.flatten.members ∧ c'.markLocal = c.markLocal) ∨
        ∃ f ∈ g.flatten.members, f.sendable t = .ok false ∧ c.markLocal ∈ f.markLocal.leaves := by
  rw [mem_leaves_locally_iff h]
  constructor
  · rintro ⟨f, hf, hsent | hw, hmem⟩
    · exact .inr ⟨f, hf, hsent, hmem⟩
    · cases f with
      | condition c' => exact .inl ⟨c', hf, (List.mem_singleton.1 hmem).symm⟩
      | compound g l => cases hw
  · rintro (⟨c', hf, heq⟩ | ⟨f, hf, hsent, hmem⟩)
    · refine ⟨_, hf, .inr ((Condition.wantsLocal_of_markLocal heq).trans hc), ?_⟩
      exact List.mem_singleton.2 heq.symm
    · exact ⟨f, hf, .inl hsent, hmem⟩

def openStatus : Condition where
  target := .attribute
    { name := "status", dataAddress := "Status", options := { filterLocally := some true } }
  value := .str "open"

def openOrTitled (op : LogicalOperator) : Group :=
  .mk op [.condition openStatus,
    .condition { target := .attribute { name := "title", dataAddress := "Title" },
                 value := .str "x" }] []

theorem markLocal_mem_locally_openStatus : ∃ s, (openOrTitled .and).split .odata2 = .ok s ∧
    openStatus.wantsLocal = true ∧ openStatus.markLocal ∈ s.locally.leaves := by
  have h : (openOrTitled .and).split .odata2 = .ok _ := rfl
  have hmember : .condition openStatus ∈ (openOrTitled .and).flatten.members :=
    List.mem_cons_self
  exact ⟨_, h, rfl, (markLocal_mem_locally_iff h rfl).2 (.inl ⟨_, hmember, rfl⟩)⟩

/-- A group goes to the service and leaves nothing behind of a condition that asks for it. -/
def Drops (g : Group) (t : FilterStyle) (c : Condition) : Prop :=
  c ∈ g.leaves ∧ c.wantsLocal = true ∧ ∃ s, g.split t = .ok s ∧ c.markLocal ∉ s.locally.leaves

/-- Neither alternatives nor what is nested in a conjunction leave a condition behind. -/
theorem drops_openStatus : (openOrTitled .or).Drops .odata2 openStatus ∧
    (Group.mk .and [.compound (openOrTitled .and) false] [openOrTitled .or]).Drops .odata2
      openStatus :=
  ⟨⟨List.mem_cons_self, rfl, _, rfl, List.not_mem_nil⟩,
    ⟨List.mem_cons_self, rfl, _, rfl, List.not_mem_nil⟩⟩

end Group

end EntityQuery
